import ModemMux.Proofs.Device.Life
import ModemMux.Proofs.Rig.Links

/-!
# Room for sessions

Where the modem has a channel for each place in the session table, a session that may be added is
added: the table has a place for it, and as the open channels are those of the live sessions, some
channel is free (`Rig.Equipped.addSession_eq_ok`). Whatever the device is asked, and whatever is
drained, this stays so (`Rig.Equipped.act`).
-/

namespace ModemMux

/-! ## What a modem is set up to do -/

namespace Loopback

variable {l : Loopback} {tag : Tag} {id : ChannelId}

/-- All of a modem but its channels. -/
def settings (l : Loopback) : LoopbackConfig × Bool × Bool :=
  (l.config, l.refusesOpens, l.failsTransmits)

theorem Opens.settings_eq {outcome : Except ChannelError ChannelId × Loopback}
    (h : Opens l tag outcome) : outcome.2.settings = l.settings := by
  cases h <;> rfl

theorem Closes.settings_eq {outcome : Except ChannelError Unit × Loopback}
    (h : Closes l tag id outcome) : outcome.2.settings = l.settings := by
  cases h <;> rfl

theorem Submits.settings_eq {payload : Bytes}
    {outcome : Except ChannelError Submission × List Signal × Loopback}
    (h : Submits l tag id payload outcome) : outcome.2.2.settings = l.settings := by
  cases h <;> rfl

theorem settings_drain (l : Loopback) (id : ChannelId) :
    (l.drain id).2.2.settings = l.settings := by
  unfold drain
  split <;> rfl

/-- A modem without a free id has as many channels open as it has ids. -/
theorem idBound_le_of_full (hfull : ∀ n < l.idBound, l.isOpen (.ofNat n)) :
    l.idBound ≤ l.channels.length := by
  have hnodup : ((List.range l.idBound).map ChannelId.ofNat).Nodup :=
    List.nodup_range.map fun _ _ ↦ ChannelId.ofNat_inj.1
  have hsub : (List.range l.idBound).map ChannelId.ofNat ⊆ l.channels.map (·.id) := by
    intro id hid
    obtain ⟨n, hn, rfl⟩ := List.mem_map.1 hid
    exact isOpen_iff.1 (hfull n (List.mem_range.1 hn))
  have hlength := hnodup.length_le_of_subset hsub
  rwa [List.length_map, List.length_map, List.length_range] at hlength

end Loopback

namespace Testbed

variable {η : Type} {r : Registry} {t : Testbed η} {tag : Tag}

theorem Adds.settings_eq {outcome : Except MuxError ChannelId × Registry × Testbed η}
    (h : Adds tag r t outcome) : outcome.2.2.modem.settings = t.modem.settings := by
  cases h with
  | rejected hmodem => exact congrArg _ hmodem
  | added hopens => exact hopens.settings_eq

theorem Removes.settings_eq {outcome : Except MuxError Unit × Registry × Testbed η}
    (h : Removes tag r t outcome) : outcome.2.2.modem.settings = t.modem.settings := by
  cases h with
  | rejected hmodem => exact congrArg _ hmodem
  | removed _ hcloses => exact hcloses.settings_eq

end Testbed

namespace Rig

variable {η : Type} [HostStack η] {rig : Rig η} {action : Action η} {tag : Tag}

/-- Whether an action is one of the device or of the host, or a drain. -/
def Action.isOrdinary : Action η → Bool
  | .device _ | .drain _ | .changeHost _ => true
  | .refuseOpens _ | .failTransmits _ | .steal _ _ => false

/-- Whether an ordinary action brings no session and takes none away. -/
def Action.isStill : Action η → Bool
  | .device (.addSession _) | .device (.removeSession _) | .device .removeSessions => false
  | .device _ | .drain _ | .changeHost _ => true
  | .refuseOpens _ | .failTransmits _ | .steal _ _ => false

omit [HostStack η] in
/-- An ordinary action steals no channel. -/
theorem Action.isLoyal_of_isOrdinary (h : action.isOrdinary) : action.isLoyal := by
  cases action with
  | steal => cases h
  | _ => rfl

omit [HostStack η] in
theorem Action.isOrdinary_of_isStill (h : action.isStill) : action.isOrdinary := by
  cases action with
  | device | drain | changeHost => rfl
  | _ => cases h

theorem act_addSession (tag : Tag) (rig : Rig η) :
    (rig.act (.device (.addSession tag))).2 =
      { rig with device := (rig.device.addSession tag).2 } :=
  heed_nil _

theorem act_removeSession (tag : Tag) (rig : Rig η) :
    (rig.act (.device (.removeSession tag))).2 =
      { rig with device := (rig.device.removeSession tag).2 } :=
  heed_nil _

theorem settings_operate (operation : Device.Operation) (d : Device (Testbed η)) :
    (d.operate operation).2.2.peers.modem.settings = d.peers.modem.settings := by
  by_cases hquiet : operation.isQuiet
  · rw [(operate_of_isQuiet hquiet).1]
  · cases operation with
    | addSession tag => exact (Testbed.adds_add tag d.registry d.peers).settings_eq
    | removeSession tag => exact (Testbed.removes_remove tag d.registry d.peers).settings_eq
    | removeSessions =>
      exact Registry.removeEach_induction
        (P := fun (_ : Registry) (t : Testbed η) ↦ t.modem.settings = d.peers.modem.settings)
        (fun tag r t h ↦ (Testbed.removes_remove tag r t).settings_eq.trans h) d.registry.tags rfl
    | transmit memory frame =>
      have htransmits := Device.transmits_transmit memory frame d
      simp only [Device.operate]
      generalize d.transmit memory frame = outcome at htransmits
      cases htransmits with
      | discarded | refused => rfl
      | submitted _ _ _ _ _ hsubmit => exact (Testbed.submits hsubmit).settings_eq
    | setFlowControl => rfl
    | _ => exact absurd rfl hquiet

/-- Nothing that is asked of the device changes what the modem is set up to do. -/
theorem settings_act (h : action.isOrdinary) (rig : Rig η) :
    (rig.act action).2.modem.settings = rig.modem.settings := by
  cases action with
  | device operation =>
    rw [modem_act_device]
    exact settings_operate operation rig.device
  | drain channel =>
    rw [modem_act_drain]
    exact Loopback.settings_drain rig.modem channel
  | changeHost => rfl
  | _ => cases h

theorem capacity_act (action : Action η) (rig : Rig η) :
    (rig.act action).2.device.registry.capacity = rig.device.registry.capacity := by
  cases action with
  | device operation =>
    have hcapacity := (Device.evolves_operate operation rig.device).capacity_eq
    rw [registry_act_device]
    split
    · exact (Registry.evolves_heedAll _ _).capacity_eq.trans hcapacity
    · exact hcapacity
  | drain channel =>
    rw [registry_act_drain]
    split
    · exact (Registry.evolves_heedAll _ _).capacity_eq
    · rfl
  | _ => rfl

/-- A still action adds and removes no session. -/
theorem tags_act (h : action.isStill) (rig : Rig η) :
    (rig.act action).2.device.registry.tags = rig.device.registry.tags := by
  apply Registry.tags_of_bindings_eq
  cases action with
  | device operation =>
    have hbindings : (rig.device.operate operation).2.2.registry.bindings =
        rig.device.registry.bindings := by
      cases operation with
      | addSession | removeSession | removeSessions => cases h
      | transmit memory frame =>
        exact congrArg Registry.bindings (Device.registry_transmit memory frame)
      | setFlowControl => exact Registry.bindings_heed
      | _ => exact (Device.counted_operate rfl).bindings_eq
    rw [registry_act_device]
    split
    · exact (Registry.bindings_heedAll _).trans hbindings
    · exact hbindings
  | drain channel =>
    rw [registry_act_drain]
    split
    · exact Registry.bindings_heedAll _
    · rfl
  | changeHost => rfl
  | _ => cases h

/-! ## A channel for each place -/

omit [HostStack η] in
/-- Whether sessions and open channels agree, and the modem opens a channel for each place in the
table. -/
structure Equipped (rig : Rig η) : Prop where
  linked : Linked [] rig.device.registry rig.modem
  opens : rig.modem.refusesOpens = false
  capacity_le : rig.device.registry.capacity ≤ rig.modem.idBound

namespace Equipped

/-- An ordinary action keeps a rig equipped. -/
theorem act (h : rig.Equipped) (haction : action.isOrdinary) : (rig.act action).2.Equipped := by
  have hsettings := settings_act haction rig
  have hconfig : (rig.act action).2.modem.config = rig.modem.config := congrArg Prod.fst hsettings
  refine ⟨h.linked.act (Action.isLoyal_of_isOrdinary haction), ?_, ?_⟩
  · exact (congrArg (·.2.1) hsettings).trans h.opens
  · rw [capacity_act, Loopback.idBound, hconfig]
    exact h.capacity_le

omit [HostStack η]

/-- A session is live on each open channel, and no two on one. -/
theorem length_channels (h : rig.Equipped) :
    rig.modem.openChannels.length = rig.device.registry.length := by
  simpa [Registry.bindings, Registry.length] using h.linked.perm.length_eq

/-- A session that is not live is added if the table has a place for it. -/
theorem addSession_eq_ok (h : rig.Equipped) (htag : tag.isSession)
    (hnew : tag ∉ rig.device.registry.tags)
    (hroom : rig.device.registry.length < rig.device.registry.capacity) :
    ∃ channel, (rig.device.addSession tag).1 = .ok channel ∧
      (rig.device.addSession tag).2.registry.tags = rig.device.registry.tags ++ [tag] := by
  have hlength := h.length_channels
  have hcapacity := h.capacity_le
  have hadds := Registry.adds_add tag rig.device.registry rig.device.peers
  simp only [Device.addSession]
  generalize rig.device.registry.add tag rig.device.peers = outcome at hadds
  cases hadds with
  | invalidTag hinvalid =>
    rw [htag] at hinvalid
    cases hinvalid
  | sessionExists _ hlive => exact absurd hlive hnew
  | full _ _ hfull => omega
  | refused _ _ _ hopen =>
    rcases (Testbed.opens hopen).refusesOpens_or_full with hrefuses | hfull
    · exact absurd (hrefuses.symm.trans h.opens) (by decide)
    · have hbound : rig.modem.idBound ≤ rig.modem.channels.length :=
        Loopback.idBound_le_of_full hfull
      rw [Loopback.openChannels, List.length_map] at hlength
      omega
  | unusable _ _ _ hopen hvalid =>
    rw [(Testbed.opens hopen).isValid] at hvalid
    cases hvalid
  | added => exact ⟨_, rfl, Registry.tags_insert _ _⟩

/-- A live session is removed, and no other. -/
theorem removeSession_eq_ok (h : rig.Equipped) (hlive : tag ∈ rig.device.registry.tags) :
    (rig.device.removeSession tag).1 = .ok () ∧
    ∀ tag', tag' ∈ (rig.device.removeSession tag).2.registry.tags ↔
      tag' ∈ rig.device.registry.tags ∧ tag' ≠ tag := by
  have hok : (rig.device.registry.remove tag rig.device.peers).1 = .ok () :=
    h.linked.remove_eq_ok hlive
  have hremoves := Registry.removes_remove tag rig.device.registry rig.device.peers
  simp only [Device.removeSession]
  generalize rig.device.registry.remove tag rig.device.peers = outcome at hok hremoves
  cases hremoves with
  | removed hs =>
    obtain rfl := Registry.tag_of_find? hs
    refine ⟨rfl, fun tag' ↦ ?_⟩
    rw [Registry.mem_tags_iff, h.linked.table.sessions_retire, Registry.mem_tags_iff]
    simp only [List.mem_filter, bne_iff_ne, ne_eq]
    constructor
    · rintro ⟨s, ⟨hs, hne⟩, rfl⟩
      exact ⟨⟨s, hs, rfl⟩, hne⟩
    · rintro ⟨⟨s, hs, rfl⟩, hne⟩
      exact ⟨s, ⟨hs, hne⟩, rfl⟩
  | _ => cases hok

end Equipped

end Rig

end ModemMux
