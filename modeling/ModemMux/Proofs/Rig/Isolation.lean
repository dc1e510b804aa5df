import ModemMux.Proofs.Registry.Identity
import ModemMux.Proofs.Rig.Perspective

/-!
# Sessions do not interfere

The sessions of a device share its counters, the modem's ids and signals, and the backlog of the
host. `Rig.Thinned a` relates a run to what is left of it when some of the steps that do not concern
the session of tag `a` are struck out. An action that does not concern the session leaves its view
of the rig alone (`seenBy_act_of_not_concerns`), and what an action that concerns it yields depends
on that view only (`act_congr`), so the views of the two runs stay the same. Thus
`Rig.events_isolated`: the session cannot tell the two runs apart.
-/

namespace ModemMux

variable {η η' : Type} {a : Tag}

/-! ## Signals -/

namespace Device

variable {d : Device (Testbed η)} {d' : Device (Testbed η')} {signals : List Signal}

/-- What signals do to the view depends on the view alone. -/
theorem seenBy_heed_congr (h : d.seenBy a = d'.seenBy a) (signals : List Signal) :
    (d.heed signals).2.seenBy a = (d'.heed signals).2.seenBy a := by
  have hregistry : d.registry.seenBy a = d'.registry.seenBy a := congrArg Device.registry h
  simp only [seenBy, mk.injEq] at h ⊢
  obtain ⟨hname, hsessions, hmtu, hmac, hup, hregistered, -, hpeers⟩ := h
  exact ⟨hname, hsessions, hmtu, hmac, hup, hregistered,
    Registry.seenBy_heedAll_congr hregistry signals, hpeers⟩

theorem seenBy_heed_of_ne
    (h : ∀ signal ∈ signals, Tag.ofSession? signal.session ≠ some a) :
    (d.heed signals).2.seenBy a = d.seenBy a := by
  have hregistry := Registry.seenBy_heedAll_of_ne (r := d.registry) h
  simp only [heed, seenBy, hregistry]

end Device

/-! ## What the views have in common -/

/-- The sessions that ever had the tag are seen as they are. -/
theorem Registry.known_filter_seenBy {r : Registry} :
    (r.seenBy a).known.filter (·.tag == a) = r.known.filter (·.tag == a) := by
  have hknown : (r.seenBy a).known = r.known.map (·.seenBy a) := (List.map_append ..).symm
  have hself : ∀ s ∈ r.known.filter (·.tag == a), s.seenBy a = id s := by
    intro s hs
    exact Session.seenBy_of_eq (by simpa using (List.mem_filter.1 hs).2)
  simp only [hknown, List.filter_map, Function.comp_def, Session.tag_seenBy]
  rw [List.map_congr_left hself, List.map_id]

/-- The channel of the session is the same on modems that it cannot tell apart. -/
theorem Loopback.channel?_congr {l l' : Loopback} (h : l.seenBy a = l'.seenBy a) {id : ChannelId}
    {c : OpenChannel} (hc : l.channel? id = some c) (htag : c.tag = a) :
    l'.channel? id = some c := by
  have hseen : (l'.channel? id).map (·.seenBy a) = some c := by
    rw [← channel?_seenBy, ← h, channel?_seenBy, hc, Option.map_some,
      OpenChannel.seenBy_of_eq htag]
  obtain ⟨d, hd, hdc⟩ := Option.map_eq_some_iff.1 hseen
  have hdtag : d.tag = a := by rw [← OpenChannel.tag_seenBy (a := a), hdc, htag]
  rw [hd, ← hdc, OpenChannel.seenBy_of_eq hdtag]

theorem Device.queueStopped_seenBy_self {d : Device (Testbed η)} :
    (d.seenBy a).queueStopped a = d.queueStopped a := by
  simp only [queueStopped, up_seenBy, registry_seenBy, Registry.isFlowControlled_seenBy_self]
  rfl

namespace Rig

/-- A rig as the session of tag `a` sees it. -/
def seenBy (a : Tag) (rig : Rig η) : Rig Unseen := ⟨rig.device.seenBy a, rig.hooked⟩

/-- Rigs that look the same to a session still do after the same signals. -/
theorem seenBy_heed_congr {rig : Rig η} {rig' : Rig η'} (h : rig.seenBy a = rig'.seenBy a)
    (signals : List Signal) : (rig.heed signals).seenBy a = (rig'.heed signals).seenBy a := by
  obtain ⟨hdevice, hhook⟩ := Rig.mk.inj h
  unfold heed
  rw [hhook]
  split
  · exact congrArg (Rig.mk · _) (Device.seenBy_heed_congr hdevice signals)
  · exact h

theorem seenBy_heed_of_ne {rig : Rig η} {signals : List Signal}
    (h : ∀ signal ∈ signals, Tag.ofSession? signal.session ≠ some a) :
    (rig.heed signals).seenBy a = rig.seenBy a := by
  unfold heed
  split
  · exact congrArg (Rig.mk · _) (Device.seenBy_heed_of_ne h)
  · rfl

/-! ## Actions -/

variable {rig rig' : Rig η} {action : Action η}

/-- Whether an action is one that the session of tag `a` depends on: traffic of its own,
administration, or a change of how the modem is set up. -/
def Action.concerns (a : Tag) (rig : Rig η) : Action η → Bool
  | .device operation => operation.concerns a
  | .drain channel => decide ((a, channel) ∈ rig.device.registry.bindings)
  | .refuseOpens _ | .failTransmits _ | .steal _ _ => true
  | .changeHost _ => false

theorem registry_congr (h : rig.seenBy a = rig'.seenBy a) :
    rig.device.registry.seenBy a = rig'.device.registry.seenBy a :=
  congrArg (·.device.registry) h

theorem modem_congr (h : rig.seenBy a = rig'.seenBy a) :
    rig.modem.seenBy a = rig'.modem.seenBy a :=
  congrArg (·.device.peers.modem) h

theorem bindings_congr (h : rig.seenBy a = rig'.seenBy a) :
    rig.device.registry.bindings = rig'.device.registry.bindings := by
  have hregistry := congrArg Registry.bindings (registry_congr h)
  rwa [Registry.bindings_seenBy, Registry.bindings_seenBy] at hregistry

/-- Which actions concern the session can be seen by it. -/
theorem concerns_congr (h : rig.seenBy a = rig'.seenBy a) :
    action.concerns a rig = action.concerns a rig' := by
  cases action with
  | drain channel => simp only [Action.concerns, bindings_congr h]
  | _ => rfl

/-- Rigs that look the same to a session still do with modems that look the same to it. -/
theorem seenBy_withModem_congr (h : rig.seenBy a = rig'.seenBy a) {l l' : Loopback}
    (hl : l.seenBy a = l'.seenBy a) :
    (rig.withModem l).seenBy a = (rig'.withModem l').seenBy a := by
  obtain ⟨hdevice, hhook⟩ := Rig.mk.inj h
  simp only [Device.seenBy, Device.mk.injEq] at hdevice
  obtain ⟨hname, hsessions, hmtu, hmac, hup, hregistered, hregistry, -⟩ := hdevice
  simp only [seenBy, withModem, Device.seenBy, Testbed.seenBy, hname, hsessions, hmtu, hmac, hup,
    hregistered, hregistry, hhook, hl]

section

variable [HostStack η]

/-- An action that concerns the session yields the same on rigs that it cannot tell apart, and
after the action it cannot tell them apart either. -/
theorem act_congr (h : rig.seenBy a = rig'.seenBy a)
    (hlink : Linked [] rig.device.registry rig.modem) (hloyal : action.isLoyal)
    (hconcerns : action.concerns a rig) :
    (rig.act action).1 = (rig'.act action).1 ∧
      (rig.act action).2.seenBy a = (rig'.act action).2.seenBy a := by
  obtain ⟨hdevice, hhook⟩ := Rig.mk.inj h
  cases action with
  | device operation =>
    have houtlook : Device.outlook a (rig.device.operate operation) =
        Device.outlook a (rig'.device.operate operation) := by
      rw [← Device.operate_seenBy hconcerns, hdevice, Device.operate_seenBy hconcerns]
    simp only [Device.outlook, Prod.mk.injEq] at houtlook
    obtain ⟨hreply, hsignals, hview⟩ := houtlook
    simp only [act, hreply, hsignals, true_and]
    apply seenBy_heed_congr
    rw [seenBy, seenBy, hview, hhook]
  | drain channel =>
    have hb : (a, channel) ∈ rig.device.registry.bindings := by
      simpa [Action.concerns] using hconcerns
    obtain ⟨c, hc, htag⟩ := hlink.exists_channel hb
    have hc' := Loopback.channel?_congr (modem_congr h) hc htag
    obtain ⟨hpayloads, hsignals, hmodem⟩ := Loopback.drain_seenBy hc htag
    obtain ⟨hpayloads', hsignals', hmodem'⟩ := Loopback.drain_seenBy hc' htag
    rw [modem_congr h] at hpayloads hsignals hmodem
    have hdrain : (rig.withModem (rig.modem.drain channel).2.2).seenBy a =
        (rig'.withModem (rig'.modem.drain channel).2.2).seenBy a :=
      seenBy_withModem_congr h (hmodem.symm.trans hmodem')
    constructor
    · exact congrArg Reply.payloads (hpayloads.symm.trans hpayloads')
    · simp only [act, drain, ← hsignals, hsignals']
      exact seenBy_heed_congr hdrain _
  | refuseOpens on | failTransmits on =>
    refine ⟨rfl, seenBy_withModem_congr h ?_⟩
    have hmodem := modem_congr h
    simp only [Loopback.seenBy, Loopback.mk.injEq] at hmodem ⊢
    tauto
  | steal => cases hloyal
  | changeHost => cases hconcerns

/-- An action that does not concern the session does not show. -/
theorem seenBy_act_of_not_concerns (hlink : Linked [] rig.device.registry rig.modem)
    (hconcerns : action.concerns a rig = false) : (rig.act action).2.seenBy a = rig.seenBy a := by
  cases action with
  | device operation =>
    obtain ⟨hview, hsignals⟩ :=
      Device.seenBy_operate_of_not_concerns (d := rig.device) hconcerns hlink.store
    simp only [act]
    rw [seenBy_heed_of_ne hsignals, seenBy, hview]
    rfl
  | drain channel =>
    simp only [act, drain]
    cases hc : rig.modem.channel? channel with
    | none => simp only [Loopback.drain, hc, heed_nil]; rfl
    | some c =>
      have hne : c.tag ≠ a := by
        intro htag
        have hb : (a, channel) ∈ rig.modem.openChannels :=
          hlink.store.mem_openChannels_iff.2 ⟨c, hc, htag⟩
        have hnone : (a, channel) ∉ rig.device.registry.bindings := by
          simpa [Action.concerns] using hconcerns
        exact hnone (hlink.mem_openChannels_iff.1 hb)
      have hdrain : (rig.withModem (rig.modem.drain channel).2.2).seenBy a =
          (rig.withModem rig.modem).seenBy a :=
        seenBy_withModem_congr rfl (hlink.store.seenBy_drain_of_ne hc hne)
      exact (seenBy_heed_of_ne (Loopback.ofSession?_ne_drain hc hne)).trans hdrain
  | changeHost => rfl
  | refuseOpens | failTransmits | steal => cases hconcerns

/-! ## Runs -/

/-- The events of a run that concern the session of tag `a`, in order. -/
def concerning (a : Tag) : List (Action η) → Rig η → List (Event η)
  | [], _ => []
  | action :: actions, rig =>
    if action.concerns a rig then
      (action, (rig.act action).1) :: concerning a actions (rig.act action).2
    else concerning a actions (rig.act action).2

/-- What is left of a run when some of the actions that do not concern the session of tag `a` are
struck out. -/
inductive Thinned (a : Tag) : Rig η → List (Action η) → List (Action η) → Prop
  | nil (rig : Rig η) : Thinned a rig [] []
  | keep {rig : Rig η} {actions kept : List (Action η)} (action : Action η)
      (h : Thinned a (rig.act action).2 actions kept) :
      Thinned a rig (action :: actions) (action :: kept)
  | strike {rig : Rig η} {actions kept : List (Action η)} {action : Action η}
      (hconcerns : action.concerns a rig = false)
      (h : Thinned a (rig.act action).2 actions kept) : Thinned a rig (action :: actions) kept

/-- On rigs that the session cannot tell apart, a run and what is left of it look the same to it. -/
theorem Thinned.congr {actions kept : List (Action η)} (h : Thinned a rig actions kept)
    (hview : rig.seenBy a = rig'.seenBy a) (hlink : Linked [] rig.device.registry rig.modem)
    (hlink' : Linked [] rig'.device.registry rig'.modem)
    (hloyal : ∀ action ∈ actions, action.isLoyal) :
    concerning a kept rig' = concerning a actions rig ∧
      (rig.run actions).2.seenBy a = (rig'.run kept).2.seenBy a := by
  induction h generalizing rig' with
  | nil => exact ⟨rfl, hview⟩
  | @keep rig actions kept action _ ih =>
    obtain ⟨hfirst, hrest⟩ := List.forall_mem_cons.1 hloyal
    have hlink₁ := hlink.act hfirst
    have hlink₁' := hlink'.act hfirst
    cases hconcerns : action.concerns a rig with
    | false =>
      have hconcerns' := (concerns_congr hview).symm.trans hconcerns
      have hview₁ : (rig.act action).2.seenBy a = (rig'.act action).2.seenBy a := by
        rw [seenBy_act_of_not_concerns hlink hconcerns, hview,
          seenBy_act_of_not_concerns hlink' hconcerns']
      obtain ⟨hevents, hend⟩ := ih hview₁ hlink₁ hlink₁' hrest
      refine ⟨?_, hend⟩
      simp only [concerning, hconcerns, hconcerns', hevents, Bool.false_eq_true, if_false]
    | true =>
      have hconcerns' := (concerns_congr hview).symm.trans hconcerns
      obtain ⟨hreply, hview₁⟩ := act_congr hview hlink hfirst hconcerns
      obtain ⟨hevents, hend⟩ := ih hview₁ hlink₁ hlink₁' hrest
      refine ⟨?_, hend⟩
      simp only [concerning, hconcerns, hconcerns', hevents, hreply]
  | @strike rig actions kept action hconcerns _ ih =>
    obtain ⟨hfirst, hrest⟩ := List.forall_mem_cons.1 hloyal
    have hview₁ : (rig.act action).2.seenBy a = rig'.seenBy a :=
      (seenBy_act_of_not_concerns hlink hconcerns).trans hview
    obtain ⟨hevents, hend⟩ := ih hview₁ (hlink.act hfirst) hlink' hrest
    refine ⟨?_, hend⟩
    simp only [concerning, hconcerns, hevents, Bool.false_eq_true, if_false]

/-- Sessions do not interfere. Strike out of a run any actions that do not concern the session of
tag `a`: traffic of other sessions in either direction, requests to stop them, packets counted for
them, drains of their channels, and whatever happens to the host. What every action that concerns
the session yields stays the same, its own traffic and all administration, and so do in the end the
live session of the tag, those of the tag that were removed, the channel of the live one with all
that waits on it, and whether the host must hold its queue back. -/
theorem events_isolated {actions kept : List (Action η)} (hfresh : rig.IsFresh)
    (hloyal : ∀ action ∈ actions, action.isLoyal) (hkept : Thinned a rig actions kept) :
    let full := (rig.run actions).2
    let thin := (rig.run kept).2
    concerning a kept rig = concerning a actions rig ∧
    thin.device.registry.lookup a = full.device.registry.lookup a ∧
    thin.device.registry.known.filter (·.tag == a) =
      full.device.registry.known.filter (·.tag == a) ∧
    (∀ s, full.device.registry.find? a = some s →
      thin.modem.channel? s.channel = full.modem.channel? s.channel) ∧
    thin.device.queueStopped a = full.device.queueStopped a := by
  intro full thin
  obtain ⟨hevents, hview⟩ : concerning a kept rig = concerning a actions rig ∧
      full.seenBy a = thin.seenBy a := hkept.congr rfl hfresh.linked hfresh.linked hloyal
  have hregistry := registry_congr hview
  have hlink : Linked [] full.device.registry full.modem := linked_run hfresh hloyal
  refine ⟨hevents, ?_, ?_, ?_, ?_⟩
  · rw [← Registry.lookup_seenBy_self, ← hregistry, Registry.lookup_seenBy_self]
  · rw [← Registry.known_filter_seenBy, ← hregistry, Registry.known_filter_seenBy]
  · intro s hs
    obtain rfl := Registry.tag_of_find? hs
    obtain ⟨c, hc, htag⟩ := hlink.exists_channel
      (Registry.mem_bindings_iff.2 ⟨s, Registry.mem_of_find? hs, rfl, rfl⟩)
    rw [Loopback.channel?_congr (modem_congr hview) hc htag, hc]
  · rw [← Device.queueStopped_seenBy_self, ← (Rig.mk.inj hview).1, Device.queueStopped_seenBy_self]

/-- Two sessions send and receive in turns, and the channel of the second one is drained. -/
def inTurns : List (Action Collector) :=
  [.device .openUp, .device (.addSession 1), .device (.addSession 2),
    .device (.transmit .ample (packet 2 7)), .device (.transmit .ample (packet 1 7)),
    .device (.receive 1 (List.replicate 15 0) false), .drain (.ofNat 1),
    .device (.transmit .ample (packet 1 8)), .device (.updateStats 0 2 .uplink)]

/-- The same without what the second session does. -/
def alone : List (Action Collector) :=
  [.device .openUp, .device (.addSession 1), .device (.addSession 2),
    .device (.transmit .ample (packet 1 7)), .device (.transmit .ample (packet 1 8)),
    .device (.updateStats 0 2 .uplink)]

theorem thinned_alone : Thinned 1 (ofConfig ⟨64, some 1⟩) inTurns alone :=
  .keep _ <| .keep _ <| .keep _ <| .strike (by decide) <| .keep _ <| .strike (by decide) <|
    .strike (by decide) <| .keep _ <| .keep _ <| .nil _

/-- With room for one payload the first session is stopped in either run. -/
theorem events_alone :
    let rig := ofConfig ⟨64, some 1⟩
    rig.IsFresh ∧ (∀ action ∈ inTurns, action.isLoyal) ∧ Thinned 1 rig inTurns alone ∧
    concerning 1 alone rig = concerning 1 inTurns rig ∧
    (rig.run alone).2.device.registry.lookup 1 = (rig.run inTurns).2.device.registry.lookup 1 ∧
    (rig.run alone).2.device.registry.isFlowControlled 1 := by
  intro rig
  have hfresh : rig.IsFresh := isFresh_ofConfig ⟨64, some 1⟩
  have hloyal : ∀ action ∈ inTurns, action.isLoyal := by simp [inTurns, Action.isLoyal]
  obtain ⟨hevents, hlookup, -⟩ := events_isolated hfresh hloyal thinned_alone
  exact ⟨hfresh, hloyal, thinned_alone, hevents, hlookup, by decide⟩

end

end Rig

end ModemMux
