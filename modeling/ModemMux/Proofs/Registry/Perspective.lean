import ModemMux.Loopback
import ModemMux.Proofs.Device.Routing
import ModemMux.Proofs.Registry.Outcome

/-!
# A table as one session sees it

`r.seenBy a` is what the session of tag `a` can see of a table. It sees itself as it is. Of each
other session it sees the place in the table, but neither what it has counted nor whether it is
stopped, and of the counters of the root device it sees nothing. A request to another session
leaves the view alone (`seenBy_request_of_ne`, `seenBy_count_of_ne`). A request to the session
itself, a frame for it, and sessions that come and go can be carried out on the view: it gives the
same answer as the table, and leads to the view of what the table becomes.
-/

namespace ModemMux

namespace Session

variable {a : Tag} {s : Session}

/-- A session without what traffic does to it: it has counted nothing, and it is not stopped. -/
def atRest (s : Session) : Session := { s.request false with counters := .zero }

/-- A session as the session of tag `a` sees it. -/
def seenBy (a : Tag) (s : Session) : Session := if s.tag = a then s else s.atRest

/-- A session sees all of itself. -/
theorem seenBy_of_eq (h : s.tag = a) : s.seenBy a = s := if_pos h

/-- A session sees another one as if it were at rest. -/
theorem seenBy_of_ne (h : s.tag ≠ a) : s.seenBy a = s.atRest := if_neg h

@[simp] theorem tag_seenBy : (s.seenBy a).tag = s.tag := by
  unfold seenBy
  split <;> rfl

@[simp] theorem channel_seenBy : (s.seenBy a).channel = s.channel := by
  unfold seenBy
  split <;> rfl

/-- At rest it is not to be seen what a session was asked to do. -/
theorem atRest_request (engage : Bool) (s : Session) : (s.request engage).atRest = s.atRest := by
  simp [atRest, request]

/-- At rest it is not to be seen what a session has counted. -/
theorem atRest_count (bytes : UInt64) (direction : Direction) (s : Session) :
    (s.count bytes direction).atRest = s.atRest := rfl

@[simp] theorem seenBy_seenBy : (s.seenBy a).seenBy a = s.seenBy a := by
  by_cases h : s.tag = a
  · rw [seenBy_of_eq h, seenBy_of_eq h]
  · rw [seenBy_of_ne h, seenBy_of_ne (s := s.atRest) h]
    exact atRest_request false s

@[simp] theorem seenBy_fresh (serial : Nat) (tag : Tag) (channel : ChannelId) :
    (fresh serial tag channel).seenBy a = fresh serial tag channel := by
  unfold seenBy
  split <;> rfl

theorem unbind_seenBy : (s.seenBy a).unbind = s.unbind.seenBy a := by
  by_cases h : s.tag = a
  · rw [seenBy_of_eq h, seenBy_of_eq (s := s.unbind) h]
  · rw [seenBy_of_ne h, seenBy_of_ne (s := s.unbind) h]
    rfl

end Session

namespace Registry

variable {a b tag : Tag} {r r' : Registry} {s : Session} {engage : Bool}

/-- A table as the session of tag `a` sees it. -/
def seenBy (a : Tag) (r : Registry) : Registry :=
  { r with
    sessions := r.sessions.map (·.seenBy a)
    retired := r.retired.map (·.seenBy a)
    totals := .zero }

@[simp] theorem capacity_seenBy : (r.seenBy a).capacity = r.capacity := rfl

@[simp] theorem length_seenBy : (r.seenBy a).length = r.length := List.length_map _

@[simp] theorem tags_seenBy : (r.seenBy a).tags = r.tags := by
  simp [tags, seenBy, Function.comp_def]

@[simp] theorem bindings_seenBy : (r.seenBy a).bindings = r.bindings := by
  simp [bindings, seenBy, Function.comp_def]

@[simp] theorem seenBy_seenBy : (r.seenBy a).seenBy a = r.seenBy a := by
  simp [seenBy, Function.comp_def]

/-! ## Finding a session -/

theorem find?_seenBy : (r.seenBy a).find? tag = (r.find? tag).map (·.seenBy a) := by
  simp only [find?, seenBy, List.find?_map, Function.comp_def, Session.tag_seenBy]

/-- The session sees itself. -/
@[simp] theorem find?_seenBy_self : (r.seenBy a).find? a = r.find? a := by
  rw [find?_seenBy]
  cases hs : r.find? a with
  | none => rfl
  | some s => exact congrArg some (Session.seenBy_of_eq (tag_of_find? hs))

@[simp] theorem lookup_seenBy_self : (r.seenBy a).lookup a = r.lookup a := by
  simp [lookup, seenBy, List.findIdx_map, Function.comp_def, ← find?_seenBy_self (a := a) (r := r)]

@[simp] theorem isFlowControlled_seenBy_self :
    (r.seenBy a).isFlowControlled a = r.isFlowControlled a := by
  rw [isFlowControlled, find?_seenBy_self, isFlowControlled]

@[simp] theorem channelOf?_seenBy_self : (r.seenBy a).channelOf? a = r.channelOf? a := by
  rw [channelOf?, lookup_seenBy_self, capacity_seenBy, channelOf?]

/-- A frame for the session goes where it goes by the view. -/
theorem route_seenBy {frame : Frame} (htag : frame.tag? = some a) (memory : Memory) :
    (r.seenBy a).route memory frame = r.route memory frame := by
  simp only [route, htag, channelOf?_seenBy_self]

/-! ## Sessions that come and go -/

/-- A new session is seen by all others just as it is. -/
theorem insert_seenBy (channel : ChannelId) :
    (r.seenBy a).insert tag channel = (r.insert tag channel).seenBy a := by
  simp [insert, seenBy]

theorem accept_seenBy (channel : ChannelId) : (r.seenBy a).accept tag channel =
    ((r.accept tag channel).1, (r.accept tag channel).2.seenBy a) := by
  unfold accept
  split
  · rw [insert_seenBy]
  · rfl

theorem retire_seenBy : (r.seenBy a).retire (s.seenBy a) = (r.retire s).seenBy a := by
  simp [retire, seenBy, List.eraseP_map, Function.comp_def, Session.unbind_seenBy]

/-! ## Requests to the session itself -/

/-- What a session does itself, it does alike in what it sees of the table. -/
theorem modify_seenBy {f : Session → Session} (hf : ∀ s, (f s).tag = s.tag) :
    (r.seenBy a).modify a f = (r.modify a f).seenBy a := by
  simp only [modify, seenBy, List.map_map, mk.injEq, true_and, and_true]
  refine List.map_congr_left fun s _ ↦ ?_
  by_cases h : s.tag = a
  · simp [h, Session.seenBy_of_eq, hf]
  · simp [h]

/-- A session follows a request alike in what it sees of the table. -/
theorem request_seenBy : (r.seenBy a).request a engage =
    ((r.request a engage).1, (r.request a engage).2.seenBy a) := by
  unfold request
  rw [find?_seenBy_self]
  split
  · rfl
  · split
    · rfl
    · exact congrArg (Prod.mk _) (modify_seenBy (Session.tag_request engage))

/-- A session counts its packets alike in what it sees of the table. -/
theorem count_seenBy (bytes : UInt64) (direction : Direction) :
    ((r.seenBy a).count a bytes direction).1 = (r.count a bytes direction).1 ∧
    ((r.seenBy a).count a bytes direction).2.seenBy a = (r.count a bytes direction).2.seenBy a := by
  unfold count
  rw [find?_seenBy_self]
  split
  · exact ⟨rfl, seenBy_seenBy⟩
  · refine ⟨rfl, ?_⟩
    have hmodify : (r.seenBy a).modify a (·.count bytes direction) =
        (r.modify a (·.count bytes direction)).seenBy a :=
      modify_seenBy (Session.tag_count bytes direction)
    rw [hmodify]
    exact seenBy_seenBy (r := r.modify a (·.count bytes direction))

/-! ## Requests to other sessions -/

/-- A change that another session's rest hides is not seen. -/
theorem seenBy_modify_of_ne (hb : b ≠ a) {f : Session → Session} (hf : ∀ s, (f s).tag = s.tag)
    (hrest : ∀ s, (f s).atRest = s.atRest) : (r.modify b f).seenBy a = r.seenBy a := by
  simp only [modify, seenBy, List.map_map, mk.injEq, true_and, and_true]
  refine List.map_congr_left fun s _ ↦ ?_
  by_cases h : s.tag = b
  · have hne : s.tag ≠ a := h ▸ hb
    simp only [Function.comp_apply, h, beq_self_eq_true, if_true]
    rw [Session.seenBy_of_ne hne, Session.seenBy_of_ne ((hf s).symm ▸ hne), hrest]
  · simp [h]

/-- A session does not see what another one is asked to do. -/
theorem seenBy_request_of_ne (hb : b ≠ a) : (r.request b engage).2.seenBy a = r.seenBy a := by
  rcases request_eq_or b engage r with heq | heq <;> rw [heq]
  exact seenBy_modify_of_ne hb (fun _ ↦ rfl) (Session.atRest_request engage)

/-- A session does not see the packets of another one. -/
theorem seenBy_count_of_ne (hb : b ≠ a) (bytes : UInt64) (direction : Direction) :
    (r.count b bytes direction).2.seenBy a = r.seenBy a := by
  by_cases hlive : b ∈ r.tags
  · rw [count_of_mem hlive]
    exact seenBy_modify_of_ne (r := r) hb (fun _ ↦ rfl) (Session.atRest_count bytes direction)
  · rw [count_of_notMem hlive]

/-! ## Signals -/

variable {signal : Signal}

theorem heed_seenBy (h : Tag.ofSession? signal.session = some a) :
    (r.seenBy a).heed signal = ((r.heed signal).1, (r.heed signal).2.seenBy a) := by
  simp only [heed, h]
  exact request_seenBy

/-- A session does not see the signals for other sessions. -/
theorem seenBy_heed_of_ne (h : Tag.ofSession? signal.session ≠ some a) :
    (r.heed signal).2.seenBy a = r.seenBy a := by
  unfold heed
  split
  · rfl
  next tag htag => exact seenBy_request_of_ne fun heq ↦ h (heq ▸ htag)

/-- What a signal does to the view depends on the view alone. -/
theorem seenBy_heed_congr (h : r.seenBy a = r'.seenBy a) :
    (r.heed signal).2.seenBy a = (r'.heed signal).2.seenBy a := by
  by_cases hsession : Tag.ofSession? signal.session = some a
  · have hr := heed_seenBy (r := r) hsession
    rw [h, heed_seenBy hsession] at hr
    exact (Prod.mk.inj hr).2.symm
  · rw [seenBy_heed_of_ne hsession, seenBy_heed_of_ne hsession, h]

/-- Tables that look the same to a session still do after the same signals. -/
theorem seenBy_heedAll_congr (h : r.seenBy a = r'.seenBy a) (signals : List Signal) :
    (r.heedAll signals).2.seenBy a = (r'.heedAll signals).2.seenBy a := by
  induction signals generalizing r r' with
  | nil => exact h
  | cons signal signals ih => exact ih (seenBy_heed_congr h)

/-- Signals for other sessions leave the view alone. -/
theorem seenBy_heedAll_of_ne {signals : List Signal}
    (h : ∀ signal ∈ signals, Tag.ofSession? signal.session ≠ some a) :
    (r.heedAll signals).2.seenBy a = r.seenBy a := by
  induction signals generalizing r with
  | nil => rfl
  | cons signal signals ih =>
    obtain ⟨hfirst, hrest⟩ := List.forall_mem_cons.1 h
    exact (ih hrest).trans (seenBy_heed_of_ne hfirst)

end Registry

/-- The signals for a tag are for no other session. -/
theorem Signal.ofSession?_ne {a b : Tag} (hb : b ≠ a) {engage : Bool} :
    ∀ signal ∈ Signal.ofTag b engage, Tag.ofSession? signal.session ≠ some a := by
  intro signal hsignal htag
  unfold Signal.ofTag at hsignal
  cases hid : b.toSession? with
  | none =>
    rw [hid] at hsignal
    cases hsignal
  | some id =>
    rw [hid] at hsignal
    obtain rfl := List.mem_singleton.1 hsignal
    exact hb (Tag.eq_of_toSession? hid (Tag.toSession?_of_ofSession? htag))

end ModemMux
