import ModemMux.Proofs.Rig.Action

/-!
# Sessions and channels

The device keeps a table of sessions and the modem a store of channels, and neither sees the
other's. `Linked lost r l` says how they fit: the sessions of `r` are the open channels of `l` and
besides them those of `lost`, whose channels were closed behind the device's back. Only such a
closing changes `lost` (`Linked.lose`); every other action keeps the link, on every branch on which
it can fail (`Linked.act`). So in a run where the device alone closes channels the two agree, and
`Rig.openChannels_eq_sessions` draws the consequences.
-/

namespace ModemMux

variable {η : Type}

/-- The live sessions are the open channels and those that have lost theirs. -/
structure Linked (lost : List (Tag × ChannelId)) (r : Registry) (l : Loopback) : Prop where
  table : r.Sound
  store : l.Sound
  perm : (l.openChannels ++ lost).Perm r.bindings

namespace Linked

variable {lost : List (Tag × ChannelId)} {r r' : Registry} {l l' : Loopback} {t : Testbed η}
  {tag : Tag} {channel : ChannelId}

/-- A channel that is open is one that a session is bound to. -/
theorem mem_bindings (h : Linked lost r l) (hb : (tag, channel) ∈ l.openChannels) :
    (tag, channel) ∈ r.bindings :=
  h.perm.subset (List.mem_append_left lost hb)

/-- Every channel that is open belongs to a session. -/
theorem exists_session (h : Linked lost r l) {c : OpenChannel} (hc : c ∈ l.channels) :
    ∃ s ∈ r.sessions, s.tag = c.tag ∧ s.channel = c.id :=
  Registry.mem_bindings_iff.1
    (h.mem_bindings (List.mem_map.2 ⟨c, hc, rfl⟩ : (c.tag, c.id) ∈ l.openChannels))

/-- No tag has two open channels. -/
theorem eq_of_tag_eq (h : Linked lost r l) {c d : OpenChannel} (hc : c ∈ l.channels)
    (hd : d ∈ l.channels) (htag : c.tag = d.tag) : c = d := by
  obtain ⟨s, hs, hstag, hschannel⟩ := h.exists_session hc
  obtain ⟨s', hs', hstag', hschannel'⟩ := h.exists_session hd
  obtain rfl := h.table.eq_of_tag_eq hs hs' (hstag.trans (htag.trans hstag'.symm))
  exact h.store.eq_of_id_eq hc hd (hschannel.symm.trans hschannel')

/-- What leaves sessions and channels at their places keeps the link. -/
theorem congr (h : Linked lost r l) (hr : r'.Sound) (hl : l'.Sound)
    (hbindings : r'.bindings = r.bindings) (hchannels : l'.openChannels = l.openChannels) :
    Linked lost r' l' :=
  ⟨hr, hl, by rw [hbindings, hchannels]; exact h.perm⟩

/-- Signals neither open nor close a channel. -/
theorem heedAll (h : Linked lost r l) (signals : List Signal) :
    Linked lost (r.heedAll signals).2 l :=
  h.congr (h.table.heedAll signals) h.store (Registry.bindings_heedAll signals) rfl

/-! ## Steps -/

/-- Adding a session opens a channel for it, or leaves both sides as they are. -/
theorem add (h : Linked lost r t.modem) (tag : Tag) :
    Linked lost (r.add tag t).2.1 (r.add tag t).2.2.modem := by
  have hsound := (Registry.adds_add tag r t).sound h.table
  have hadds := Testbed.adds_add tag r t
  generalize r.add tag t = outcome at hsound hadds
  cases hadds with
  | rejected hmodem => exact ⟨hsound, hmodem ▸ h.store, hmodem ▸ h.perm⟩
  | @added channel t' hopens =>
    refine ⟨hsound, hopens.sound h.store, ?_⟩
    rw [Registry.bindings_insert]
    calc t'.modem.openChannels ++ lost
      _ |>.Perm ((tag, channel) :: (t.modem.openChannels ++ lost)) :=
          hopens.openChannels_perm.append_right lost
      _ |>.Perm ((tag, channel) :: r.bindings) := h.perm.cons _
      _ |>.Perm (r.bindings ++ [(tag, channel)]) := (List.perm_append_singleton _ _).symm

/-- Removing a session closes its channel, or leaves both sides as they are. -/
theorem remove (h : Linked lost r t.modem) (tag : Tag) :
    Linked lost (r.remove tag t).2.1 (r.remove tag t).2.2.modem := by
  have hsound := (Registry.removes_remove tag r t).sound h.table
  have hremoves := Testbed.removes_remove tag r t
  generalize r.remove tag t = outcome at hsound hremoves
  cases hremoves with
  | rejected hmodem => exact ⟨hsound, hmodem ▸ h.store, hmodem ▸ h.perm⟩
  | removed hs hcloses =>
    obtain rfl := Registry.tag_of_find? hs
    have hmem := hcloses.mem_openChannels h.store
    refine ⟨hsound, hcloses.sound h.store, ?_⟩
    -- both sides lose the same pair, which is none of the lost ones
    rw [hcloses.openChannels_eq h.store, h.table.bindings_retire (Registry.mem_of_find? hs),
      ← List.erase_append_left _ hmem]
    exact h.perm.erase _

/-- A channel that is closed behind the device's back leaves its session without one. -/
theorem lose (h : Linked lost r l) (hclose : Loopback.Closes l tag channel (.ok (), l')) :
    Linked ((tag, channel) :: lost) r l' := by
  refine ⟨h.table, hclose.sound h.store, ?_⟩
  have hmem := hclose.mem_openChannels h.store
  rw [hclose.openChannels_eq h.store]
  calc l.openChannels.erase (tag, channel) ++ (tag, channel) :: lost
    _ |>.Perm ((tag, channel) :: (l.openChannels.erase (tag, channel) ++ lost)) :=
        List.perm_middle
    _ |>.Perm (l.openChannels ++ lost) := ((List.perm_cons_erase hmem).append_right lost).symm
    _ |>.Perm r.bindings := h.perm

theorem operate [HostStack η] {d : Device (Testbed η)} (h : Linked lost d.registry d.peers.modem)
    (operation : Device.Operation) :
    Linked lost (d.operate operation).2.2.registry (d.operate operation).2.2.peers.modem := by
  have hsound := Device.sound_operate h.table operation
  by_cases hquiet : operation.isQuiet
  · obtain ⟨hmodem, -, -⟩ := Rig.operate_of_isQuiet (d := d) hquiet
    exact h.congr hsound (hmodem ▸ h.store) (Device.counted_operate hquiet).bindings_eq
      (congrArg _ hmodem)
  · cases operation with
    | addSession tag => exact h.add tag
    | removeSession tag => exact h.remove tag
    | removeSessions =>
      exact Registry.removeEach_induction
        (P := fun (r : Registry) (t : Testbed η) ↦ Linked lost r t.modem)
        (fun tag _ _ h ↦ h.remove tag) d.registry.tags h
    | transmit memory frame =>
      have htransmits := Device.transmits_transmit memory frame d
      simp only [Device.operate]
      generalize d.transmit memory frame = outcome at htransmits
      cases htransmits with
      | discarded | refused => exact h
      | submitted _ _ _ _ _ hsubmit =>
        have hsubmits := Testbed.submits hsubmit
        exact h.congr h.table (hsubmits.sound h.store) rfl hsubmits.openChannels_eq
    | setFlowControl id engage => exact h.congr hsound h.store Registry.bindings_heed rfl
    | _ => exact absurd rfl hquiet

/-- Only a closing behind the device's back makes sessions lose their channels. -/
theorem act [HostStack η] {rig : Rig η} (h : Linked lost rig.device.registry rig.modem)
    {action : Rig.Action η} (hloyal : action.isLoyal) :
    Linked lost (rig.act action).2.device.registry (rig.act action).2.modem := by
  cases action with
  | device operation =>
    rw [Rig.modem_act_device, Rig.registry_act_device]
    split
    · exact (h.operate operation).heedAll _
    · exact h.operate operation
  | drain channel =>
    have hdrain : Linked lost rig.device.registry (rig.modem.drain channel).2.2 :=
      h.congr h.table (h.store.drain channel) rfl (Loopback.openChannels_drain rig.modem channel)
    rw [Rig.modem_act_drain, Rig.registry_act_drain]
    split
    · exact hdrain.heedAll _
    · exact hdrain
  | refuseOpens | failTransmits =>
    exact h.congr h.table ⟨h.store.nodup, h.store.id_lt, h.store.depth_eq, h.store.sound⟩ rfl rfl
  | steal => cases hloyal
  | changeHost => exact h

/-- Whatever is done, the channels that are missing account for the difference. -/
theorem exists_act [HostStack η] {rig : Rig η} (h : Linked lost rig.device.registry rig.modem)
    (action : Rig.Action η) :
    ∃ lost', Linked lost' (rig.act action).2.device.registry (rig.act action).2.modem := by
  by_cases hloyal : action.isLoyal
  · exact ⟨lost, h.act hloyal⟩
  · cases action with
    | steal tag channel =>
      have hcloses := Loopback.closes_closeChannel rig.modem tag channel
      simp only [Rig.act]
      generalize rig.modem.closeChannel tag channel = outcome at hcloses
      obtain ⟨_ | _, l⟩ := outcome
      · obtain rfl := hcloses.eq_of_error
        exact ⟨lost, h⟩
      · exact ⟨_, h.lose hcloses⟩
    | _ => exact absurd rfl hloyal

/-- A run that steals no channel leaves none missing that was not missing before. -/
theorem run [HostStack η] {rig : Rig η} (h : Linked lost rig.device.registry rig.modem)
    {actions : List (Rig.Action η)} (hloyal : ∀ action ∈ actions, action.isLoyal) :
    Linked lost (rig.run actions).2.device.registry (rig.run actions).2.modem :=
  Rig.run_induction (P := fun rig ↦ Linked lost rig.device.registry rig.modem)
    (fun _ _ hloyal h ↦ h.act hloyal) hloyal h

theorem exists_run [HostStack η] {rig : Rig η} (h : Linked lost rig.device.registry rig.modem)
    (actions : List (Rig.Action η)) :
    ∃ lost', Linked lost' (rig.run actions).2.device.registry (rig.run actions).2.modem :=
  Rig.run_induction (P := fun rig ↦ ∃ lost', Linked lost' rig.device.registry rig.modem)
    (fun action _ _ ⟨_, h⟩ ↦ h.exists_act action) (fun _ _ ↦ trivial) ⟨lost, h⟩

/-- A session that was just added runs, and its channel has nothing in its queue. -/
theorem add_eq_ok (h : Linked lost r t.modem) (hadd : (r.add tag t).1 = .ok channel) :
    (∃ s, (r.add tag t).2.1.find? tag = some s ∧ s.channel = channel ∧ s.state = .runnable) ∧
    ∃ c, (r.add tag t).2.2.modem.channel? channel = some c ∧ c.tag = tag ∧ c.queue = [] := by
  have hlinked := h.add tag
  have hadds := Testbed.adds_add tag r t
  generalize r.add tag t = outcome at hadd hlinked hadds
  cases hadds with
  | rejected => cases hadd
  | @added channel t' hopens =>
    cases hadd
    exact ⟨⟨_, hlinked.table.find?_insert, rfl, rfl⟩, _,
      hlinked.store.channel?_eq_some_iff.2 ⟨hopens.mem_channels_iff.2 (.inl rfl), rfl⟩, rfl, rfl⟩

/-! ## Sessions that all have their channels -/

/-- The channel of a live session is open for its tag. -/
theorem exists_channel (h : Linked [] r l) (hb : (tag, channel) ∈ r.bindings) :
    ∃ c, l.channel? channel = some c ∧ c.tag = tag := by
  rw [← h.store.mem_openChannels_iff]
  simpa using h.perm.symm.subset hb

/-- A channel of a live session is open for that session's tag. -/
theorem tag_eq (h : Linked [] r l) {s : Session} (hs : s ∈ r.sessions) {c : OpenChannel}
    (hc : c ∈ l.channels) (hid : c.id = s.channel) : s.tag = c.tag := by
  obtain ⟨d, hd, htag⟩ := h.exists_channel (Registry.mem_bindings_iff.2 ⟨s, hs, rfl, rfl⟩)
  have hcd : l.channel? s.channel = some c := h.store.channel?_eq_some_iff.2 ⟨hc, hid⟩
  obtain rfl := Option.some.inj (hd.symm.trans hcd)
  exact htag.symm

/-- While no channel is missing, those that are open are those that sessions are bound to. -/
theorem mem_openChannels_iff (h : Linked [] r l) :
    (tag, channel) ∈ l.openChannels ↔ (tag, channel) ∈ r.bindings := by
  simpa using h.perm.mem_iff (a := (tag, channel))

/-- While no channel is missing, every live session can be removed. -/
theorem remove_eq_ok (h : Linked [] r t.modem) (htag : tag ∈ r.tags) :
    (r.remove tag t).1 = .ok () := by
  have hremoves := Registry.removes_remove tag r t
  generalize r.remove tag t = outcome at hremoves
  cases hremoves with
  | unknown hnew => exact absurd htag hnew
  | unusable hs hvalid =>
    rw [h.table.isValid _ (Registry.mem_of_find? hs)] at hvalid
    cases hvalid
  | @refused s _ _ hs _ hclose =>
    have hmem : (tag, s.channel) ∈ t.modem.openChannels := by
      rw [h.mem_openChannels_iff, Registry.mem_bindings_iff]
      exact ⟨s, Registry.mem_of_find? hs, Registry.tag_of_find? hs, rfl⟩
    cases (Testbed.closes hclose).eq_ok h.store hmem
  | removed => rfl

/-- With memory at hand and a modem that takes payloads no frame fails on the way down. -/
theorem transmit_ne_io {d : Device (Testbed η)} (h : Linked [] d.registry d.peers.modem)
    (hfail : d.peers.modem.failsTransmits = false) {memory : Memory} (hmemory : memory.Available)
    (frame : Frame) (reason : String) :
    (d.transmit memory frame).1 ≠ .error (.io tag reason) := by
  have htransmits := Device.transmits_transmit memory frame d
  generalize d.transmit memory frame = outcome at htransmits
  cases htransmits with
  | discarded => simp
  | refused he => simpa using he tag reason
  | @submitted _ cut _ _ _ _ _ _ _ hs _ hsubmit =>
    obtain ⟨c, hc, htag⟩ := h.exists_channel (h.table.channelOf?_eq_some_iff.1 hs)
    obtain rfl := (Testbed.submits hsubmit).eq_ok hfail hc htag
    split
    · simp [Routed.settle, Split.reassemble_of_available hmemory cut]
    · simp [Routed.settle]

/-! ## The end of a device -/

theorem notMem_tags_remove (h : Linked [] r t.modem) (tag : Tag) :
    tag ∉ (r.remove tag t).2.1.tags := by
  by_cases htag : tag ∈ r.tags
  · have hok := h.remove_eq_ok htag
    have hremoves := Registry.removes_remove tag r t
    generalize r.remove tag t = outcome at hok hremoves
    cases hremoves with
    | removed hs =>
      obtain rfl := Registry.tag_of_find? hs
      exact h.table.notMem_tags_retire
    | _ => cases hok
  · exact fun hmem ↦ htag ((Registry.removes_remove tag r t).tags_sublist.subset hmem)

/-- Of the sessions that are to be removed none stays. -/
theorem notMem_tags_removeEach (h : Linked [] r t.modem) {tags : List Tag} (htag : tag ∈ tags) :
    tag ∉ (Registry.removeEach tags r t).2.1.tags := by
  induction tags generalizing r t with
  | nil => cases htag
  | cons tag' tags ih =>
    rcases List.mem_cons.1 htag with rfl | htag
    · -- a tag that is gone does not come back
      exact fun hmem ↦ h.notMem_tags_remove tag (Registry.tags_removeEach_subset tags hmem)
    · exact ih (h.remove tag') htag

/-- While no channel is missing, a removal of all sessions closes every channel. -/
theorem openChannels_removeAll (h : Linked [] r t.modem) :
    (r.removeAll t).2.2.modem.openChannels = [] := by
  have hend : Linked [] (r.removeAll t).2.1 (r.removeAll t).2.2.modem :=
    Registry.removeEach_induction
      (P := fun (r : Registry) (t : Testbed η) ↦ Linked [] r t.modem)
      (fun tag _ _ h ↦ h.remove tag) r.tags h
  have htags : (r.removeAll t).2.1.tags = [] :=
    List.eq_nil_iff_forall_not_mem.2 fun tag hmem ↦
      h.notMem_tags_removeEach (Registry.tags_removeEach_subset r.tags hmem) hmem
  have hbindings : (r.removeAll t).2.1.bindings = [] := by
    simpa [Registry.bindings, Registry.tags] using htags
  simpa [hbindings] using hend.perm

theorem openChannels_shutdown [HostStack η] {d : Device (Testbed η)}
    (h : Linked [] d.registry d.peers.modem) (hd : d.registered) :
    d.shutdown.peers.modem.openChannels = [] := by
  unfold Device.shutdown
  rw [if_pos hd]
  exact openChannels_removeAll (t := HostStack.detach d.peers) h

end Linked

/-! ## Runs -/

namespace Rig

variable {rig : Rig η}

theorem IsFresh.linked (h : rig.IsFresh) : Linked [] rig.device.registry rig.modem where
  table := Registry.sound_of_sessions_eq_nil h.sessions
  store := Loopback.sound_of_channels_eq_nil h.channels
  perm := by simp [Loopback.openChannels, Registry.bindings, h.channels, h.sessions]

variable [HostStack η] {actions : List (Action η)}

/-- From a fresh rig on no channel is missing as long as none is stolen. -/
theorem linked_run (hfresh : rig.IsFresh) (hloyal : ∀ action ∈ actions, action.isLoyal) :
    Linked [] (rig.run actions).2.device.registry (rig.run actions).2.modem :=
  hfresh.linked.run hloyal

/-- In a run where the device alone opens and closes channels, the channels that are open are at any
time those of the live sessions, each under its session's tag; their ids are distinct, and there is
one for each session. So a removal of a live session succeeds, no frame fails on the way down unless
the modem fails or memory runs out, a channel is refused only if the modem refuses all or has no id
left, and a device that has ended leaves no channel open. -/
theorem openChannels_eq_sessions (hfresh : rig.IsFresh)
    (hloyal : ∀ action ∈ actions, action.isLoyal) :
    let rig' := (rig.run actions).2
    let r := rig'.device.registry
    (∀ tag channel, (tag, channel) ∈ rig'.modem.openChannels ↔
      ∃ s ∈ r.sessions, s.tag = tag ∧ s.channel = channel) ∧
    (rig'.modem.openChannels.map Prod.snd).Nodup ∧
    rig'.modem.openChannels.length = r.length ∧
    (∀ tag ∈ r.tags, (rig'.device.removeSession tag).1 = .ok ()) ∧
    (rig'.modem.failsTransmits = false → ∀ memory : Memory, memory.Available →
      ∀ frame tag reason, (rig'.device.transmit memory frame).1 ≠ .error (.io tag reason)) ∧
    (∀ tag tag' source, (rig'.device.addSession tag).1 = .error (.channelOpenFailed tag' source) →
      rig'.modem.refusesOpens ∨ ∀ n < rig'.modem.idBound, rig'.modem.isOpen (.ofNat n)) ∧
    rig'.device.deinit.peers.modem.openChannels = [] ∧
    rig'.device.drop.peers.modem.openChannels = [] := by
  intro rig' r
  have h : Linked [] r rig'.modem := linked_run hfresh hloyal
  have hregistered : rig'.device.registered := registered_run hfresh.registered actions
  have hend := h.openChannels_shutdown hregistered
  refine ⟨fun tag channel ↦ ?_, ?_, ?_, fun tag htag ↦ h.remove_eq_ok htag,
    fun hfail memory hmemory frame tag reason ↦ h.transmit_ne_io hfail hmemory frame reason,
    fun tag tag' source hadd ↦ Testbed.refusesOpens_or_full hadd, ?_, hend⟩
  · rw [h.mem_openChannels_iff, Registry.mem_bindings_iff]
  · rw [Loopback.map_snd_openChannels]
    exact h.store.nodup
  · simpa [Registry.bindings, Registry.length] using h.perm.length_eq
  · rw [Device.deinit_eq_shutdown]
    exact hend

/-- Two sessions come, one goes, and from then on the modem opens no channel. -/
def comeAndGo : List (Action Collector) :=
  [.device (.addSession 1), .device (.addSession 257), .device (.removeSession 1),
    .refuseOpens true]

theorem openChannels_comeAndGo :
    (ofConfig {}).IsFresh ∧ (∀ action ∈ comeAndGo, action.isLoyal) ∧
    ((ofConfig {}).run comeAndGo).2.modem.openChannels = [(257, .ofNat 1)] ∧
    ((ofConfig {}).run comeAndGo).2.device.deinit.peers.modem.openChannels = [] := by
  have hfresh := isFresh_ofConfig {}
  have hloyal : ∀ action ∈ comeAndGo, action.isLoyal := by simp [comeAndGo, Action.isLoyal]
  obtain ⟨-, -, -, -, -, -, hend, -⟩ := openChannels_eq_sessions hfresh hloyal
  exact ⟨hfresh, hloyal, by decide, hend⟩

end Rig

end ModemMux
