import ModemMux.Proofs.Device.Life

/-!
# Flow control of sessions

Anyone who knows a session by its id can ask it to stop or to restart, through the device or past
it. Such a request changes the state of that session and nothing else (`Registry.Sound.snd_heed`),
so the last one decides: `Device.requested` reads off a life what was asked of a session since it
was added, and `Device.isStopped_run` says that the session is stopped if this ends in a request to
stop.
-/

namespace ModemMux

/-! ## One request -/

namespace Session

variable {s : Session}

/-- A bound session takes the state that is asked for. -/
theorem request_of_bound (hs : s.state ≠ .unbound) (engage : Bool) :
    s.request engage = { s with state := if engage then .flowControlled else .runnable } := by
  cases hstate : s.state with
  | unbound => exact absurd hstate hs
  | runnable | flowControlled => simp [request, SessionState.request, hstate]

/-- Of two requests the later one decides. -/
@[simp] theorem request_request (engage engage' : Bool) :
    (s.request engage).request engage' = s.request engage' := by
  simp [request]

/-- The session after a request to the one with some id. -/
def obey (signal : Signal) (s : Session) : Session :=
  if s.tag.toNat = signal.session.toNat + 1 then s.request signal.engage else s

@[simp] theorem tag_obey (signal : Signal) : (s.obey signal).tag = s.tag := by
  unfold obey
  split <;> rfl

/-- Of two requests to one session the later one decides. -/
theorem obey_obey (id : SessionId) (engage engage' : Bool) :
    (s.obey ⟨id, engage⟩).obey ⟨id, engage'⟩ = s.obey ⟨id, engage'⟩ := by
  simp only [obey, apply_ite (fun t : Session ↦ t.tag), tag_request, ite_self]
  split
  · exact request_request engage engage'
  · rfl

/-- A signal changes no session but the one that it is for. -/
theorem obey_of_ne {signal : Signal} (h : s.tag.toNat ≠ signal.session.toNat + 1) :
    s.obey signal = s := if_neg h

/-- No session is asked by both of two requests to different ones. -/
theorem obey_comm {id id' : SessionId} (hne : id ≠ id') (engage engage' : Bool) :
    (s.obey ⟨id, engage⟩).obey ⟨id', engage'⟩ = (s.obey ⟨id', engage'⟩).obey ⟨id, engage⟩ := by
  have hne : id.toNat ≠ id'.toNat := fun heq ↦ hne (UInt32.toNat_inj.1 heq)
  by_cases hid : s.tag.toNat = id.toNat + 1
  · have hid' : s.tag.toNat ≠ id'.toNat + 1 := by omega
    have hother : s.obey ⟨id', engage'⟩ = s := obey_of_ne hid'
    have hlater : (s.obey ⟨id, engage⟩).obey ⟨id', engage'⟩ = s.obey ⟨id, engage⟩ :=
      obey_of_ne (by rwa [tag_obey])
    rw [hlater, hother]
  · have hother : s.obey ⟨id, engage⟩ = s := obey_of_ne hid
    have hlater : (s.obey ⟨id', engage'⟩).obey ⟨id, engage⟩ = s.obey ⟨id', engage'⟩ :=
      obey_of_ne (by rwa [tag_obey])
    rw [hlater, hother]

end Session

namespace Registry

/-- The table after a request to the session with an id. -/
def obey (signal : Signal) (r : Registry) : Registry :=
  { r with sessions := r.sessions.map (·.obey signal) }

variable {r : Registry} {signal : Signal} {tag : Tag}

/-- Of two signals for one session the later one decides. -/
theorem obey_obey (id : SessionId) (engage engage' : Bool) :
    (r.obey ⟨id, engage⟩).obey ⟨id, engage'⟩ = r.obey ⟨id, engage'⟩ := by
  simp [obey, Session.obey_obey]

/-- Signals for different sessions may come in either order. -/
theorem obey_comm {id id' : SessionId} (hne : id ≠ id') (engage engage' : Bool) :
    (r.obey ⟨id, engage⟩).obey ⟨id', engage'⟩ = (r.obey ⟨id', engage'⟩).obey ⟨id, engage⟩ := by
  simp [obey, Session.obey_comm hne]

/-- A request that is for no live session changes nothing. -/
theorem obey_of_forall_ne (h : ∀ s ∈ r.sessions, s.tag.toNat ≠ signal.session.toNat + 1) :
    r.obey signal = r := by
  rw [obey, List.map_congr_left fun s hs ↦ Session.obey_of_ne (h s hs), List.map_id']

/-- No session has a tag above the last one for control streams. -/
theorem Sound.toNat_tag_le (h : r.Sound) {s : Session} (hs : s ∈ r.sessions) :
    s.tag.toNat ≤ 511 := by
  have hsession := h.isSession s hs
  rw [Tag.isSession_iff, Tag.classify_eq_data_iff, Tag.classify_eq_control_iff] at hsession
  omega

/-- A request changes the state of the session it is for, if there is one, and nothing else. -/
theorem Sound.snd_heed (h : r.Sound) (signal : Signal) : (r.heed signal).2 = r.obey signal := by
  cases hid : Tag.ofSession? signal.session with
  | none =>
    rw [heed_of_eq_none hid, obey_of_forall_ne]
    intro s hs heq
    have hle := h.toNat_tag_le hs
    rw [heq] at hle
    simp [Tag.ofSession?_of_le hle] at hid
  | some tag =>
    have htag := Tag.toNat_ofSession? hid
    by_cases hlive : tag ∈ r.tags
    · have hobey : (fun s : Session ↦ if s.tag == tag then s.request signal.engage else s) =
          (·.obey signal) := by
        funext s
        simp only [Session.obey, beq_iff_eq, ← UInt16.toNat_inj, htag]
      rw [h.heed_of_mem hid hlive]
      simp only [Registry.modify, hobey, obey]
    · rw [heed_of_notMem hid hlive, obey_of_forall_ne]
      intro s hs heq
      exact hlive (mem_tags_iff.2 ⟨s, hs, UInt16.toNat_inj.1 (heq.trans htag.symm)⟩)

/-- The answer to a request depends on which sessions are live. -/
theorem Sound.fst_heed_congr {r' : Registry} (h : r.Sound) (h' : r'.Sound)
    (htags : r'.tags = r.tags) (signal : Signal) : (r'.heed signal).1 = (r.heed signal).1 := by
  cases hid : Tag.ofSession? signal.session with
  | none => rw [heed_of_eq_none hid, heed_of_eq_none hid]
  | some tag =>
    by_cases hlive : tag ∈ r.tags
    · rw [h.heed_of_mem hid hlive, h'.heed_of_mem hid (htags ▸ hlive)]
    · rw [heed_of_notMem hid hlive, heed_of_notMem hid (htags ▸ hlive)]

/-! ## The last request -/

/-- Whether a live session of a tag is as the last of some requests wants it. -/
def Follows (tag : Tag) (requests : List Bool) (r : Registry) : Prop :=
  ∀ s ∈ r.sessions, s.tag = tag → s.isFlowControlled = (requests.getLast? == some true)

namespace Follows

variable {requests : List Bool} {r' : Registry}

/-- What brings no session and changes no state keeps them so. -/
theorem of_exists (h : r.Follows tag requests)
    (hsessions : ∀ s' ∈ r'.sessions, ∃ s ∈ r.sessions, s'.tag = s.tag ∧ s'.state = s.state) :
    r'.Follows tag requests := by
  intro s' hs' htag
  obtain ⟨s, hs, hstag, hstate⟩ := hsessions s' hs'
  rw [Session.isFlowControlled, hstate]
  exact h s hs (hstag.symm.trans htag)

/-- A registry with fewer sessions follows the same requests. -/
theorem of_subset (h : r.Follows tag requests) (hsessions : r'.sessions ⊆ r.sessions) :
    r'.Follows tag requests :=
  fun s hs ↦ h s (hsessions hs)

/-- A registry in which packets were counted follows the same requests. -/
theorem counted (h : r.Follows tag requests) (hcounted : Counted r r') :
    r'.Follows tag requests := by
  refine h.of_exists fun s' hs' ↦ ?_
  obtain ⟨s, hs, htag, -, hstate⟩ := hcounted.exists_session hs'
  exact ⟨s, hs, htag, hstate⟩

/-- A request is the last one to its own session, and leaves the others as they are. -/
theorem heed (h : r.Follows tag requests) (hr : r.Sound) (signal : Signal) :
    (r.heed signal).2.Follows tag
      (if tag.toNat = signal.session.toNat + 1 then requests ++ [signal.engage] else requests) := by
  rw [hr.snd_heed]
  intro s' hs' htag
  obtain ⟨s, hs, rfl⟩ := List.mem_map.1 hs'
  rw [Session.tag_obey] at htag
  subst htag
  unfold Session.obey
  split
  · rw [Session.isFlowControlled_request (hr.bound s hs)]
    simp
  · exact h s hs rfl

variable {ω : Type} [Transport ω]

/-- A session that was just added has received no request. -/
theorem add (h : r.Follows tag requests) (t : Tag) (peers : ω) :
    (r.add t peers).2.1.Follows tag
      (if t = tag ∧ (r.add t peers).1.toBool then [] else requests) := by
  have hadds := adds_add t r peers
  generalize r.add t peers = outcome at hadds
  cases hadds with
  | @added channel _ _ hnew =>
    intro s hs htag
    rcases List.mem_append.1 hs with hs | hs
    · have hne : t ≠ tag := fun heq ↦ hnew (heq ▸ htag ▸ mem_tags_of_mem hs)
      simpa [hne] using h s hs htag
    · obtain rfl := List.mem_singleton.1 hs
      obtain rfl : t = tag := htag
      simp [Except.toBool, Session.fresh, Session.isFlowControlled]
  | _ => simpa [Except.toBool] using h

theorem remove (h : r.Follows tag requests) (t : Tag) (peers : ω) :
    (r.remove t peers).2.1.Follows tag requests :=
  h.of_subset (removes_remove t r peers).sessions_sublist.subset

theorem removeEach (h : r.Follows tag requests) (tags : List Tag) (peers : ω) :
    (removeEach tags r peers).2.1.Follows tag requests :=
  h.of_subset (sessions_removeEach_subset tags)

end Follows

/-- A session is stopped under its id if it lives and the last request wants it so. -/
theorem Sound.isStopped_iff (h : r.Sound) {id : SessionId} {requests : List Bool}
    (hid : Tag.ofSession? id = some tag) (hfollows : r.Follows tag requests) :
    r.isStopped id ↔ tag ∈ r.tags ∧ requests.getLast? = some true := by
  by_cases hlive : tag ∈ r.tags
  · obtain ⟨s, hs, rfl⟩ := mem_tags_iff.1 hlive
    rw [h.isStopped_eq hs hid, hfollows s hs rfl]
    simp [hlive]
  · simp [isStopped, hid, isFlowControlled, find?_eq_none_iff.2 hlive, hlive]

end Registry

namespace Device

variable {ω : Type} [Transport ω] [HostStack ω]

/-- The requests to the session of a tag since it was last added, after one more step. -/
def Step.requested (step : Step ω) (tag : Tag) (earlier : List Bool) (d : Device ω) : List Bool :=
  match step with
  | .operate (.addSession t) => if t = tag ∧ (d.addSession t).1.toBool then [] else earlier
  | .operate (.setFlowControl id engage) | .signal ⟨id, engage⟩ =>
    if tag.toNat = id.toNat + 1 then earlier ++ [engage] else earlier
  | _ => earlier

/-- The requests to the session of a tag since it was last added, after a life. Those before it are
`earlier`. -/
def requested (tag : Tag) (earlier : List Bool) : List (Step ω) → Device ω → List Bool
  | [], _ => earlier
  | step :: steps, d =>
    requested tag (step.requested tag earlier d) steps (d.advance step)

variable {d : Device ω} {tag : Tag} {earlier : List Bool}

omit [HostStack ω] in
/-- A quiet operation requests nothing. -/
theorem Step.requested_of_isQuiet {operation : Operation} (h : operation.isQuiet) :
    (Step.operate operation).requested tag earlier d = earlier := by
  cases operation with
  | addSession | removeSession | removeSessions | transmit | setFlowControl => cases h
  | _ => rfl

theorem follows_shutdown (h : d.registry.Follows tag earlier) :
    d.shutdown.registry.Follows tag earlier := by
  unfold shutdown
  split
  · exact h.removeEach d.registry.tags _
  · exact h

/-- One step keeps the states in line with the requests so far. -/
theorem follows_advance (h : d.registry.Follows tag earlier) (hd : d.registry.Sound)
    (step : Step ω) :
    (d.advance step).registry.Follows tag (step.requested tag earlier d) := by
  cases step with
  | operate operation =>
    by_cases hquiet : operation.isQuiet
    · rw [Step.requested_of_isQuiet hquiet]
      exact h.counted (counted_operate hquiet)
    · cases operation with
      | addSession t => exact h.add t d.peers
      | removeSession t => exact h.remove t d.peers
      | removeSessions => exact h.removeEach d.registry.tags d.peers
      | transmit memory frame =>
        have hregistry : (d.advance (.operate (.transmit memory frame))).registry = d.registry :=
          registry_transmit memory frame
        rw [hregistry]
        exact h
      | setFlowControl id engage => exact h.heed hd ⟨id, engage⟩
      | _ => exact absurd rfl hquiet
  | count t bytes direction => exact h.counted (.count t bytes direction)
  | signal signal => exact h.heed hd signal
  | changePeers => exact h
  | deinit =>
    rw [advance_of_isEnd rfl]
    exact follows_shutdown h
  | drop => exact follows_shutdown h

/-- A whole run keeps the states in line with the requests made in it. -/
theorem follows_run (h : d.registry.Follows tag earlier) (hd : d.registry.Sound)
    (steps : List (Step ω)) :
    (d.run steps).registry.Follows tag (d.requested tag earlier steps) := by
  induction steps generalizing d earlier with
  | nil => exact h
  | cons step steps ih =>
    exact ih (follows_advance h hd step) ((evolves_advance step d).sound hd)

/-! ## The law -/

/-- The law of requests to a device. -/
structure Heeds (d : Device ω) : Prop where
  /-- To ask the device is to ask its table past it. -/
  past : ∀ id engage, d.setFlowControl id engage =
    ((d.registry.heed ⟨id, engage⟩).1, d.advance (.signal ⟨id, engage⟩))
  invalid : ∀ id engage, 511 < id.toNat + 1 →
    d.setFlowControl id engage = (.error (.invalidSessionId id), d)
  unknown : ∀ id engage, id.toNat + 1 ≤ 511 → .ofNat (id.toNat + 1) ∉ d.registry.tags →
    d.setFlowControl id engage = (.error (.unknownSession (.ofNat (id.toNat + 1))), d)
  /-- There is an id whose tag no session can have. -/
  gap : ∀ engage, d.setFlowControl 255 engage = (.error (.unknownSession 256), d)
  live : ∀ id engage, id.toNat + 1 ≤ 511 → .ofNat (id.toNat + 1) ∈ d.registry.tags →
    (d.setFlowControl id engage).1 = .ok ()
  /-- Nothing changes but the state of one session. -/
  alone : ∀ id engage, (d.setFlowControl id engage).2 =
    { d with registry := { d.registry with sessions := d.registry.sessions.map fun s ↦
        if s.tag.toNat = id.toNat + 1 then
          { s with state := if engage then .flowControlled else .runnable }
        else s } }
  again : ∀ id engage,
    (d.setFlowControl id engage).2.setFlowControl id engage = d.setFlowControl id engage
  commute : ∀ id id' engage engage', id ≠ id' →
    ((d.setFlowControl id engage).2.setFlowControl id' engage').1 =
      (d.setFlowControl id' engage').1 ∧
    ((d.setFlowControl id engage).2.setFlowControl id' engage').2 =
      ((d.setFlowControl id' engage').2.setFlowControl id engage).2

omit [Transport ω] [HostStack ω] in
/-- All that a flow control request does is to have the sessions obey it. -/
theorem snd_setFlowControl (hd : d.registry.Sound) (id : SessionId) (engage : Bool) :
    (d.setFlowControl id engage).2 = { d with registry := d.registry.obey ⟨id, engage⟩ } :=
  congrArg (fun r ↦ { d with registry := r }) (hd.snd_heed ⟨id, engage⟩)

omit [Transport ω] [HostStack ω] in
/-- A request answers the same whether or not another one came before it. -/
theorem fst_setFlowControl_setFlowControl (hd : d.registry.Sound) (id id' : SessionId)
    (engage engage' : Bool) :
    ((d.setFlowControl id engage).2.setFlowControl id' engage').1 =
      (d.setFlowControl id' engage').1 :=
  hd.fst_heed_congr hd.heed (Registry.tags_of_bindings_eq Registry.bindings_heed) ⟨id', engage'⟩

theorem heeds_of_sound (hd : d.registry.Sound) : d.Heeds where
  past _ _ := rfl
  invalid id engage hid := by
    rw [setFlowControl, Registry.heed_of_eq_none (Tag.ofSession?_of_lt hid)]
  unknown id engage hid hnew := by
    rw [setFlowControl, Registry.heed_of_notMem (Tag.ofSession?_of_le hid) hnew]
  gap engage := by
    have hnew : (256 : Tag) ∉ d.registry.tags := fun hlive ↦ by
      obtain ⟨s, hs, htag⟩ := Registry.mem_tags_iff.1 hlive
      exact absurd (hd.isSession s hs) (by rw [htag]; decide)
    rw [setFlowControl, Registry.heed_of_notMem rfl hnew]
  live id engage hid hlive := by
    rw [setFlowControl, hd.heed_of_mem (Tag.ofSession?_of_le hid) hlive]
  alone id engage := by
    rw [snd_setFlowControl hd, Registry.obey]
    congr 2
    refine List.map_congr_left fun s hs ↦ ?_
    rw [Session.obey, Session.request_of_bound (hd.bound s hs)]
  again id engage := by
    have hd' : (d.setFlowControl id engage).2.registry.Sound := hd.heed
    refine Prod.ext (fst_setFlowControl_setFlowControl hd id id engage engage) ?_
    rw [snd_setFlowControl hd', snd_setFlowControl hd]
    simp only [Registry.obey_obey]
  commute id id' engage engage' hne := by
    have hd' : ∀ id engage, (d.setFlowControl id engage).2.registry.Sound :=
      fun id engage ↦ hd.heed
    refine ⟨fst_setFlowControl_setFlowControl hd id id' engage engage', ?_⟩
    rw [snd_setFlowControl (hd' id engage), snd_setFlowControl (hd' id' engage'),
      snd_setFlowControl hd, snd_setFlowControl hd]
    simp only [Registry.obey_comm hne]

/-- Whatever has become of a device, its transport and its host, and whoever has asked for what: the
session with an id is stopped if its tag is live and the last request to it since it was added was
to stop, and not otherwise. The next request is heeded by the law. -/
theorem isStopped_run {config : Config} {spare : Mac} {peers : ω} {device : Device ω}
    (hinit : init config spare peers = .ok device) (steps : List (Step ω)) :
    let d := device.run steps
    (∀ id : SessionId, d.registry.isStopped id ↔
      id.toNat + 1 ≤ 511 ∧ .ofNat (id.toNat + 1) ∈ d.registry.tags ∧
      (device.requested (.ofNat (id.toNat + 1)) [] steps).getLast? = some true) ∧
    d.Heeds := by
  intro d
  obtain ⟨hsound, -⟩ := sound_run hinit steps
  refine ⟨fun id ↦ ?_, heeds_of_sound hsound⟩
  by_cases hid : id.toNat + 1 ≤ 511
  · have hfresh : device.registry.Follows (.ofNat (id.toNat + 1)) [] := by
      rw [registry_of_init hinit]
      exact fun s hs ↦ absurd hs List.not_mem_nil
    have hfollows := follows_run hfresh (sound_run hinit []).1 steps
    rw [hsound.isStopped_iff (Tag.ofSession?_of_le hid) hfollows]
    exact (and_iff_right hid).symm
  · rw [Registry.isStopped, Tag.ofSession?_of_lt (Nat.not_le.1 hid)]
    simp [hid]

/-- Of two sessions that are stopped the first is removed and comes back. The second cannot be
removed, as its channel is lost at the modem, nor added again. -/
def waver : List (Step Testbed) :=
  [.operate (.addSession 1), .operate (.addSession 2), .operate (.setFlowControl 0 true),
    .signal ⟨1, true⟩, .operate (.removeSession 1), .operate (.addSession 1),
    .changePeers fun t ↦ { t with modem := (t.modem.closeChannel 2 (.ofNat 1)).2 },
    .operate (.removeSession 2), .operate (.addSession 2)]

/-- The first session runs and the second is stopped. -/
theorem isStopped_waver :
    let d := initial.run waver
    init {} .zero ⟨{}, {}⟩ = .ok initial ∧ d.registry.tags = [2, 1] ∧
    ¬d.registry.isStopped 0 ∧ d.registry.isStopped 1 ∧
    d.setFlowControl 2 true = (.error (.unknownSession 3), d) := by
  intro d
  obtain ⟨hstopped, hheeds⟩ := isStopped_run init_initial waver
  refine ⟨init_initial, by decide, fun hfirst ↦ ?_, ?_, ?_⟩
  · obtain ⟨-, -, hlast⟩ := (hstopped 0).1 hfirst
    exact absurd hlast (by decide)
  · exact (hstopped 1).2 ⟨by decide, by decide, by decide⟩
  · exact hheeds.unknown 2 true (by decide) (by decide)

end Device

end ModemMux
