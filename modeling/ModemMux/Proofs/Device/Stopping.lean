import ModemMux.Proofs.Device.Flow
import ModemMux.Proofs.Device.Limits

/-!
# Queues that are chosen and queues that are stopped

A frame goes to the queue that all share, to the queue of its own session or to none (`Selects`).
Which queues are stopped is a question of their numbers and of the session table. The two fit
together: while a device is up, the queue of a frame runs unless there is none or the session it
belongs to is stopped (`Device.queueStopped_selectQueue`). A request to a session reaches no queue
but its own (`Device.queueStopped_request`), so a session without a queue stops none, however often
it is asked: `Device.queueStopped_run`.
-/

namespace ModemMux

/-- A set-up that is accepted is for at least one IP session and for no more than there are tags. -/
theorem Config.maxSessions_of_validate {config : Config} (h : config.validate = .ok ()) :
    1 ≤ config.maxSessions ∧ config.maxSessions ≤ 255 := by
  unfold validate at h
  split at h
  · cases h
  · split at h
    · cases h
    next hsessions =>
      have hmost : mostSessions = 255 := rfl
      omega

/-! ## The queue of a frame -/

/-- Which queue takes the frames of a tag. -/
inductive Selects (limit : Nat) : Option Tag → UInt16 → Prop
  /-- The queue of the root device and of the control sessions. -/
  | shared {tag? : Option Tag}
      (hshared : ∀ tag, tag? = some tag → tag.classify = .root ∨ tag.classify = .control) :
      Selects limit tag? 0
  /-- The queue of an IP session. -/
  | own {tag : Tag} (hdata : tag.classify = .data) (hlimit : tag.toNat ≤ limit) :
      Selects limit (some tag) tag
  | nowhere {tag : Tag}
      (hnone : tag.classify = .invalid ∨ tag.classify = .data ∧ limit < tag.toNat) :
      Selects limit (some tag) invalidQueue

/-- The queue that is selected is the one that the rule names. -/
theorem selects_selectQueue (tag? : Option Tag) (limit : Nat) :
    Selects limit tag? (selectQueue tag? limit) := by
  cases tag? with
  | none => exact .shared fun tag htag ↦ by cases htag
  | some tag =>
    cases hclass : tag.classify with
    | root | control =>
      simp only [selectQueue, hclass]
      apply Selects.shared
      rintro _ ⟨rfl⟩
      simp [hclass]
    | data =>
      rw [selectQueue_of_data hclass]
      split
      next hlimit => exact .own hclass hlimit
      next hlimit => exact .nowhere (.inr ⟨hclass, Nat.not_le.1 hlimit⟩)
    | invalid =>
      simp only [selectQueue, hclass]
      exact .nowhere (.inl hclass)

/-- No session may have the tag between the two ranges, or one above both. -/
theorem Tag.classify_eq_invalid_iff {tag : Tag} :
    tag.classify = .invalid ↔ tag.toNat = 256 ∨ 511 < tag.toNat := by
  grind [classify, dataEnd, controlStart, controlEnd]

namespace Selects

variable {limit : Nat} {tag? : Option Tag} {queue : UInt16}

/-- The frames that no queue takes. -/
theorem eq_invalidQueue_iff (h : Selects limit tag? queue) : queue = invalidQueue ↔
    ∃ tag, tag? = some tag ∧ (tag.classify = .invalid ∨
      tag.classify = .data ∧ limit < tag.toNat) := by
  cases h with
  | shared hshared =>
    constructor
    · intro hqueue
      cases hqueue
    · rintro ⟨tag, htag, hnone⟩
      rcases hshared tag htag with hclass | hclass <;> simp [hclass] at hnone
  | @own tag hdata hlimit =>
    have hle := (Tag.classify_eq_data_iff.1 hdata).2
    constructor
    · rintro rfl
      exact absurd hle (by decide)
    · rintro ⟨_, ⟨rfl⟩, hnone⟩
      simp only [hdata, reduceCtorEq, true_and, false_or] at hnone
      omega
  | @nowhere tag hnone => exact ⟨fun _ ↦ ⟨tag, rfl, hnone⟩, fun _ ↦ rfl⟩

/-- A queue that takes frames is one of the shared queue and those of the IP sessions. -/
theorem eq_invalidQueue_or_lt (h : Selects limit tag? queue) :
    queue = invalidQueue ∨ queue.toNat < 1 + limit := by
  cases h with
  | shared => exact .inr (Nat.add_pos_left Nat.one_pos limit)
  | own _ hlimit => exact .inr (by omega)
  | nowhere => exact .inl rfl

/-- Frames that belong to no IP session share a queue. -/
theorem eq_zero (h : Selects limit tag? queue)
    (hshared : ∀ tag, tag? = some tag → tag = 0 ∨ tag.classify = .control) : queue = 0 := by
  cases h with
  | shared => rfl
  | own hdata _ =>
    rcases hshared _ rfl with rfl | hclass
    · cases hdata
    · simp [hclass] at hdata
  | nowhere hnone =>
    rcases hshared _ rfl with rfl | hclass
    · rcases hnone with hnone | ⟨hnone, -⟩ <;> cases hnone
    · simp [hclass] at hnone

end Selects

/-! ## Stopped sessions -/

namespace Registry

variable {r : Registry} {tag : Tag} {signal : Signal}

/-- A tag is stopped if its session is live and flow controlled. -/
theorem Sound.isFlowControlled_iff (h : r.Sound) : r.isFlowControlled tag ↔
    ∃ s ∈ r.sessions, s.tag = tag ∧ s.state = .flowControlled := by
  constructor
  · intro hstopped
    obtain ⟨s, hs, hstate⟩ := (Option.any_eq_true _ _).1 hstopped
    exact ⟨s, mem_of_find? hs, tag_of_find? hs, beq_iff_eq.1 hstate⟩
  · rintro ⟨s, hs, htag, hstate⟩
    rw [isFlowControlled, h.find?_eq_some_iff.2 ⟨hs, htag⟩]
    exact beq_iff_eq.2 hstate

/-- A signal reaches the session of a tag wherever it stands in the table. -/
theorem find?_obey (signal : Signal) (tag : Tag) (r : Registry) :
    (r.obey signal).find? tag = (r.find? tag).map (·.obey signal) := by
  simp only [find?, obey, List.find?_map, Function.comp_def, Session.tag_obey]

/-- A session that is not asked is stopped or not as before. -/
theorem isFlowControlled_obey_of_ne (hne : tag.toNat ≠ signal.session.toNat + 1) :
    (r.obey signal).isFlowControlled tag = r.isFlowControlled tag := by
  rw [isFlowControlled, isFlowControlled, find?_obey]
  cases hs : r.find? tag with
  | none => rfl
  | some s =>
    have hsame : s.obey signal = s := Session.obey_of_ne (by rwa [tag_of_find? hs])
    rw [Option.map_some, hsame]

/-- A live session that is asked is as it was asked to be. -/
theorem Sound.isFlowControlled_obey (h : r.Sound) (htag : tag.toNat = signal.session.toNat + 1)
    (hlive : tag ∈ r.tags) : (r.obey signal).isFlowControlled tag = signal.engage := by
  obtain ⟨s, hs, rfl⟩ := mem_tags_iff.1 hlive
  have hasked : s.obey signal = s.request signal.engage := if_pos htag
  rw [isFlowControlled, find?_obey, h.find?_eq_some_iff.2 ⟨hs, rfl⟩, Option.map_some,
    Option.any_some, hasked]
  exact Session.isFlowControlled_request (h.bound s hs) signal.engage

end Registry

/-! ## Stopped queues -/

namespace Device

variable {ω : Type} {d : Device ω} {queue : UInt16}

/-- While the device is down, all queues are stopped. -/
theorem queueStopped_of_down (hup : d.up = false) (queue : UInt16) : d.queueStopped queue :=
  if_pos hup

/-- While the device is up, a queue is stopped if it is above the limit, or if its session is. -/
theorem queueStopped_iff (hup : d.up) : d.queueStopped queue ↔
    queue ≠ 0 ∧ (d.maxSessions < queue.toNat ∨ d.registry.isFlowControlled queue) := by
  have hzero : queue.toNat = 0 ↔ queue = 0 := UInt16.toNat_inj (b := 0)
  rw [queueStopped, if_neg (by simp [hup]), ← hzero.ne]
  split
  next h => simp [h]
  next h =>
    split
    next hlimit => simp [h, hlimit]
    next hlimit => simp [h, hlimit]

/-- While a device is up, the queue of a frame is stopped if there is none for it, or if it is that
of a session which is stopped. -/
theorem queueStopped_selectQueue (h : d.registry.Sound) (hlimit : d.maxSessions ≤ 255)
    (hup : d.up) (frame : Frame) :
    d.queueStopped (d.selectQueue frame) ↔ d.selectQueue frame = invalidQueue ∨
      ∃ s ∈ d.registry.sessions, frame.tag? = some s.tag ∧ s.tag.classify = .data ∧
        s.tag.toNat ≤ d.maxSessions ∧ s.state = .flowControlled := by
  have hselects := selects_selectQueue frame.tag? d.maxSessions
  rw [queueStopped_iff hup, selectQueue]
  generalize ModemMux.selectQueue frame.tag? d.maxSessions = queue at hselects
  generalize frame.tag? = tag? at hselects
  cases hselects with
  | shared hshared =>
    constructor
    · rintro ⟨hzero, -⟩
      exact absurd rfl hzero
    · rintro (hnone | ⟨s, -, htag, hdata, -⟩)
      · cases hnone
      · rcases hshared s.tag htag with hclass | hclass <;> simp [hclass] at hdata
  | @own tag hdata hqueue =>
    obtain ⟨hpos, hle⟩ := Tag.classify_eq_data_iff.1 hdata
    rw [h.isFlowControlled_iff]
    constructor
    · rintro ⟨-, hover | ⟨s, hs, rfl, hstate⟩⟩
      · omega
      · exact .inr ⟨s, hs, rfl, hdata, hqueue, hstate⟩
    · rintro (rfl | ⟨s, hs, htag, -, -, hstate⟩)
      · exact absurd hle (by decide)
      · refine ⟨?_, .inr ⟨s, hs, (Option.some.inj htag).symm, hstate⟩⟩
        rintro rfl
        cases hpos
  | nowhere =>
    refine ⟨fun _ ↦ .inl rfl, fun _ ↦ ⟨by decide, .inl ?_⟩⟩
    exact Nat.lt_of_le_of_lt hlimit (by decide)

/-- What a queue depends on. -/
theorem queueStopped_congr {other : Device ω} (hup : other.up = d.up)
    (hlimit : other.maxSessions = d.maxSessions)
    (hsession : 1 ≤ queue.toNat → queue.toNat ≤ d.maxSessions →
      other.registry.isFlowControlled queue = d.registry.isFlowControlled queue) :
    other.queueStopped queue = d.queueStopped queue := by
  rw [queueStopped, queueStopped, hup, hlimit]
  split
  · rfl
  · split
    · rfl
    · split
      · rfl
      · exact hsession (by omega) (by omega)

/-! ## Requests -/

/-- What a step asks of a session, be it through the device or past it. -/
def Step.request? : Step ω → Option Signal
  | .operate (.setFlowControl id engage) => some ⟨id, engage⟩
  | .signal request => some request
  | _ => none

variable [Transport ω] [HostStack ω] {step : Step ω} {signal : Signal}

/-- A step that is a request does what its signal says, and no more. -/
theorem advance_of_request (hd : d.registry.Sound) (hstep : step.request? = some signal) :
    d.advance step = { d with registry := d.registry.obey signal } := by
  have hsignal : d.advance (.signal signal) = { d with registry := d.registry.obey signal } :=
    congrArg (fun r ↦ { d with registry := r }) (hd.snd_heed signal)
  unfold Step.request? at hstep
  split at hstep
  · cases hstep
    exact hsignal
  · cases hstep
    exact hsignal
  · cases hstep

/-- A request reaches no queue but that of the session which is asked. -/
theorem queueStopped_request (hd : d.registry.Sound) (hstep : step.request? = some signal)
    (hqueue : queue.toNat ≤ d.maxSessions → queue.toNat ≠ signal.session.toNat + 1) :
    (d.advance step).queueStopped queue = d.queueStopped queue := by
  rw [advance_of_request hd hstep]
  refine queueStopped_congr rfl rfl fun _ hle ↦ ?_
  exact Registry.isFlowControlled_obey_of_ne (hqueue hle)

/-- The queue of a live session is stopped as it was asked last. -/
theorem queueStopped_of_live {tag : Tag} (hd : d.registry.Sound)
    (hstep : step.request? = some signal) (htag : tag.toNat = signal.session.toNat + 1)
    (hlimit : tag.toNat ≤ d.maxSessions) (hup : d.up) (hlive : tag ∈ d.registry.tags) :
    (d.advance step).queueStopped tag = signal.engage := by
  have hstopped := hd.isFlowControlled_obey htag hlive
  rw [advance_of_request hd hstep]
  have hne : tag ≠ 0 := Tag.ne_zero_of_isSession (by
    obtain ⟨s, hs, rfl⟩ := Registry.mem_tags_iff.1 hlive
    exact hd.isSession s hs)
  rw [Bool.eq_iff_iff, queueStopped_iff (by exact hup)]
  simp only [hstopped]
  constructor
  · rintro ⟨-, hover | hengage⟩
    · exact absurd hover (Nat.not_lt.2 hlimit)
    · exact hengage
  · intro hengage
    exact ⟨hne, .inr hengage⟩

/-- Requests to sessions without a queue reach no queue. -/
theorem queueStopped_requests (hd : d.registry.Sound) {requests : List (Step ω)}
    (hrequests : ∀ step ∈ requests, ∃ signal, step.request? = some signal ∧
      d.maxSessions < signal.session.toNat + 1) (queue : UInt16) :
    (d.run requests).queueStopped queue = d.queueStopped queue := by
  induction requests generalizing d with
  | nil => rfl
  | cons step requests ih =>
    obtain ⟨⟨signal, hstep, hover⟩, hrest⟩ := List.forall_mem_cons.1 hrequests
    have hlimit : (d.advance step).maxSessions = d.maxSessions := maxSessions_advance step d
    have hsound : (d.advance step).registry.Sound := (evolves_advance step d).sound hd
    have hlater := ih hsound (by rwa [hlimit])
    exact hlater.trans (queueStopped_request hd hstep fun hle ↦ by omega)

/-! ## The law -/

/-- The queues of a device at any time of its life. Each frame goes to one of the queues there are
or to none, and to none exactly if its tag is no session's or that of an IP session past the first
ones. While the device is down every queue is stopped. While it is up the queue of a frame is
stopped if it is none, or if the frame belongs to one of the first IP sessions and that session is
live and stopped; so what has no tag, that of the root device or that of a control session has a
queue that runs. Requests to control sessions, and to IP sessions past the first ones, stop and
start no queue, however many there are. A request to one of the first IP sessions reaches its own
queue alone, which is then stopped or not as was asked if the session is live. -/
theorem queueStopped_run {config : Config} {spare : Mac} {peers : ω} {device : Device ω}
    (hinit : init config spare peers = .ok device) (steps : List (Step ω)) :
    let d := device.run steps
    (∀ frame : Frame,
      let queue := d.selectQueue frame
      (queue = invalidQueue ∨ queue.toNat < d.txQueueCount) ∧
      (queue = invalidQueue ↔ ∃ tag, frame.tag? = some tag ∧
        (tag.toNat = 256 ∨ 511 < tag.toNat ∨
          tag.classify = .data ∧ config.maxSessions < tag.toNat)) ∧
      (d.up → (d.queueStopped queue ↔ queue = invalidQueue ∨
        ∃ s ∈ d.registry.sessions, frame.tag? = some s.tag ∧ s.tag.classify = .data ∧
          s.tag.toNat ≤ config.maxSessions ∧ s.state = .flowControlled)) ∧
      (d.up → (∀ tag, frame.tag? = some tag → tag = 0 ∨ tag.classify = .control) →
        queue = 0 ∧ d.queueStopped queue = false)) ∧
    (d.up = false → ∀ queue, d.queueStopped queue) ∧
    (∀ requests : List (Step ω), (∀ step ∈ requests, ∃ signal, ∃ tag : Tag,
        step.request? = some signal ∧ tag.toNat = signal.session.toNat + 1 ∧
          (tag.classify = .control ∨ tag.classify = .data ∧ config.maxSessions < tag.toNat)) →
      ∀ queue, (d.run requests).queueStopped queue = d.queueStopped queue) ∧
    ∀ (step : Step ω) signal (tag : Tag), step.request? = some signal →
      tag.toNat = signal.session.toNat + 1 → tag.classify = .data →
      tag.toNat ≤ config.maxSessions →
        (∀ queue, queue ≠ tag → (d.advance step).queueStopped queue = d.queueStopped queue) ∧
        (tag ∉ d.registry.tags → d.advance step = d) ∧
        (d.up → tag ∈ d.registry.tags → (d.advance step).queueStopped tag = signal.engage) := by
  intro d
  have hsound : d.registry.Sound := (sound_run hinit steps).1
  obtain ⟨hmax, hvalid⟩ : d.maxSessions = config.maxSessions ∧ config.maxSessions ≤ 255 := by
    have hinits := inits_init config spare peers
    rw [hinit] at hinits
    cases hinits with
    | attached hconfig =>
      exact ⟨maxSessions_run steps _, (Config.maxSessions_of_validate hconfig).2⟩
  rw [← hmax] at hvalid ⊢
  refine ⟨?_, queueStopped_of_down, ?_, ?_⟩
  · intro frame queue
    have hselects : Selects d.maxSessions frame.tag? queue :=
      selects_selectQueue frame.tag? d.maxSessions
    refine ⟨hselects.eq_invalidQueue_or_lt, ?_, ?_, ?_⟩
    · simp only [hselects.eq_invalidQueue_iff, Tag.classify_eq_invalid_iff, or_assoc]
    · intro hup
      exact queueStopped_selectQueue hsound hvalid hup frame
    · intro hup hshared
      have hzero : queue = 0 := hselects.eq_zero hshared
      rw [hzero]
      exact ⟨rfl, Bool.eq_false_iff.2 fun hstopped ↦ (queueStopped_iff hup).1 hstopped |>.1 rfl⟩
  · intro requests hrequests
    apply queueStopped_requests hsound
    intro step hstep
    obtain ⟨signal, tag, hsignal, htag, hclass⟩ := hrequests step hstep
    refine ⟨signal, hsignal, ?_⟩
    rcases hclass with hcontrol | ⟨-, hover⟩
    · have := (Tag.classify_eq_control_iff.1 hcontrol).1
      omega
    · omega
  · intro step signal tag hstep htag hdata hlimit
    refine ⟨?_, ?_, ?_⟩
    · intro queue hne
      apply queueStopped_request hsound hstep
      intro _ hqueue
      exact hne (UInt16.toNat_inj.1 (hqueue.trans htag.symm))
    · intro hnew
      rw [advance_of_request hsound hstep, Registry.obey_of_forall_ne]
      intro s hs hasked
      exact hnew (Registry.mem_tags_iff.2 ⟨s, hs, UInt16.toNat_inj.1 (hasked.trans htag.symm)⟩)
    · intro hup hlive
      exact queueStopped_of_live hsound hstep htag hlimit hup hlive

/-- A device goes up, and three of its sessions are stopped: the first, one without a queue and a
control session. -/
def stoppedThrice : List (Step Testbed) :=
  [.operate (.setMac ⟨2, 0, 0, 0, 0, 7⟩), .operate .openUp, .operate (.addSession 1),
    .operate (.addSession 9), .operate (.addSession 257), .operate (.setFlowControl 0 true),
    .operate (.setFlowControl 8 true), .signal ⟨256, true⟩]

/-- The two sessions without a queue of their own are asked to go on. -/
def relent : List (Step Testbed) := [.signal ⟨8, false⟩, .operate (.setFlowControl 256 false)]

/-- Of the three the first session alone has its queue stopped. There is none for the second one,
and a frame with the third one's tag inside it goes to the queue that runs. What is asked of these
two does not start the first one's queue. -/
theorem queueStopped_stoppedThrice :
    let d := initial.run stoppedThrice
    let frame (tag : Tag) : Frame := .vlan tag .zero .zero EtherType.ipv4 [0x45]
    init {} .zero ⟨{}, {}⟩ = .ok initial ∧ d.up ∧
    d.queueStopped (d.selectQueue (frame 1)) ∧ d.selectQueue (frame 9) = invalidQueue ∧
    d.queueStopped (d.selectQueue (frame 9)) ∧
    d.selectQueue (frame 257) = 0 ∧ d.queueStopped (d.selectQueue (frame 257)) = false ∧
    (d.run relent).queueStopped 1 = d.queueStopped 1 ∧
    (d.advance (.signal ⟨0, false⟩)).queueStopped 1 = false := by
  intro d frame
  obtain ⟨hframe, -, hrequests, hrequest⟩ := queueStopped_run init_initial stoppedThrice
  have hup : d.up := rfl
  obtain ⟨-, -, hfirst, -⟩ := hframe (frame 1)
  obtain ⟨-, hnone, hsecond, -⟩ := hframe (frame 9)
  obtain ⟨-, -, -, hthird⟩ := hframe (frame 257)
  have hnowhere : d.selectQueue (frame 9) = invalidQueue :=
    hnone.2 ⟨9, rfl, .inr (.inr ⟨by decide, by decide⟩)⟩
  obtain ⟨hshared, hruns⟩ := hthird hup (by rintro tag ⟨rfl⟩; exact .inr (by decide))
  refine ⟨init_initial, hup, (hfirst hup).2 (.inr ?_), hnowhere, (hsecond hup).2 (.inl hnowhere),
    hshared, hruns, ?_, ?_⟩
  · exact ⟨⟨0, 1, .ofNat 0, .flowControlled, .zero⟩, by decide, rfl, by decide, by decide, rfl⟩
  · apply hrequests relent
    intro step hstep
    rcases List.mem_pair.1 hstep with rfl | rfl
    · exact ⟨⟨8, false⟩, 9, rfl, rfl, .inr ⟨by decide, by decide⟩⟩
    · exact ⟨⟨256, false⟩, 257, rfl, rfl, .inl (by decide)⟩
  · exact (hrequest (.signal ⟨0, false⟩) ⟨0, false⟩ 1 rfl rfl (by decide) (by decide)).2.2 hup
      (by decide)

end Device

end ModemMux
