import ModemMux.Proofs.Registry.Ledger
import ModemMux.Testbed

/-!
# Closing all channels

To remove all sessions is to go through the table as it was at first. Whatever the transport
answers, it is asked once for each session, in table order, to close the channel of that session
under its tag (`closeEach`), and the sessions whose channels it does not close are those that stay
(`Registry.Sound.removeAll_eq`). So much is known of the sessions of any table that operations have
made (`Registry.removeAll_run`).
-/

namespace ModemMux

/-- An attempt to close the channel of a session. -/
structure Closing where
  session : Session
  answer : Except ChannelError Unit

namespace Closing

/-- The attempt as the transport sees it. -/
def call (c : Closing) : Call := .closeChannel c.session.tag c.session.channel c.answer

/-- Whether the channel stays open. -/
def isRefused (c : Closing) : Bool := !c.answer.toBool

end Closing

variable {ω : Type} [Transport ω]

/-- Asks the transport to close the channels of sessions, one after the other. -/
def closeEach : List Session → ω → List Closing × ω
  | [], peers => ([], peers)
  | s :: ss, peers =>
    match Transport.closeChannel s.tag s.channel peers with
    | (answer, peers) =>
      match closeEach ss peers with
      | (closings, peers) => (⟨s, answer⟩ :: closings, peers)

/-- There is one closing for each session, in the order of the table. -/
theorem map_session_closeEach (ss : List Session) (peers : ω) :
    (closeEach ss peers).1.map (·.session) = ss := by
  induction ss generalizing peers with
  | nil => rfl
  | cons s ss ih => exact congrArg (s :: ·) (ih _)

/-- Nothing is asked of the transport but the closings. -/
theorem calls_closeEach (ss : List Session) (w : Recorded ω) :
    (closeEach ss w).2.calls = w.calls ++ (closeEach ss w).1.map (·.call) := by
  induction ss generalizing w with
  | nil => exact (List.append_nil _).symm
  | cons s ss ih =>
    refine (ih _).trans ?_
    rw [Recorded.calls_closeChannel rfl, List.append_assoc]
    rfl

/-- A transport that closes any channel refuses none of them. -/
theorem filter_isRefused_closeEach
    (hclose : ∀ tag channel (peers : ω), (Transport.closeChannel tag channel peers).1 = .ok ())
    (ss : List Session) (peers : ω) :
    (closeEach ss peers).1.filter (·.isRefused) = [] := by
  induction ss generalizing peers with
  | nil => rfl
  | cons s ss ih =>
    have hfirst : ¬(Closing.mk s (Transport.closeChannel s.tag s.channel peers).1).isRefused := by
      rw [Closing.isRefused, hclose]
      exact Bool.false_ne_true
    exact (List.filter_cons_of_neg hfirst).trans (ih _)

namespace Registry

variable {r : Registry} {s : Session}

/-- The sessions before a session have other tags. -/
theorem Sound.tag_ne_of_append (h : r.Sound) {before after : List Session}
    (hsessions : r.sessions = before ++ s :: after) : ∀ t ∈ before, t.tag ≠ s.tag := by
  intro t ht
  have hnodup := h.nodup
  rw [tags, hsessions, List.map_append, List.nodup_append] at hnodup
  exact hnodup.2.2 _ (List.mem_map_of_mem ht) s.tag List.mem_cons_self

/-- The table after attempts to close the channels of the sessions behind `kept`: those stay whose
channels are not closed. -/
def settle (kept : List Session) (closings : List Closing) (r : Registry) : Registry :=
  { r with
    sessions := kept ++ (closings.filter (·.isRefused)).map (·.session)
    retired := ((closings.filter (!·.isRefused)).map (·.session.unbind)).reverse ++ r.retired }

/-- While the sessions behind `kept` are removed the table is always made of those before them that
stay and of those that are still to come. -/
theorem Sound.removeEach_eq (h : r.Sound) {kept rest : List Session}
    (hsessions : r.sessions = kept ++ rest) (peers : ω) :
    Registry.removeEach (rest.map (·.tag)) r peers =
      ((closeEach rest peers).1.countP (!·.isRefused), r.settle kept (closeEach rest peers).1,
        (closeEach rest peers).2) := by
  induction rest generalizing r kept peers with
  | nil => simp [Registry.removeEach, closeEach, settle, ← hsessions]
  | cons s rest ih =>
    have hs : s ∈ r.sessions := by simp [hsessions]
    rcases hclose : Transport.closeChannel s.tag s.channel peers with ⟨answer, peers'⟩
    cases answer with
    | error source =>
      -- the session stays, and is one of those before the rest
      have hkept : r.sessions = (kept ++ [s]) ++ rest := by simp [hsessions]
      simp only [List.map_cons, Registry.removeEach, h.remove_eq hs, hclose, ih h hkept, closeEach]
      simp [settle, Closing.isRefused, Except.toBool]
    | ok =>
      have hkept : (r.retire s).sessions = kept ++ rest :=
        sessions_retire_append hsessions (h.tag_ne_of_append hsessions)
      simp only [List.map_cons, Registry.removeEach, h.remove_eq hs, hclose, ih h.retire hkept,
        closeEach]
      simp [settle, Registry.retire, Closing.isRefused, Except.toBool]

/-- A removal of all sessions counts the closings that went well, keeps the sessions of the others
in order, and retires the rest. -/
theorem Sound.removeAll_eq (h : r.Sound) (peers : ω) :
    r.removeAll peers =
      ((closeEach r.sessions peers).1.countP (!·.isRefused),
        r.settle [] (closeEach r.sessions peers).1, (closeEach r.sessions peers).2) :=
  h.removeEach_eq (List.nil_append r.sessions).symm peers

/-- Of all sessions those stay whose channels are not closed. -/
theorem Sound.exists_closings (h : r.Sound) (w : Recorded ω) :
    ∃ closings : List Closing, closings.map (·.session) = r.sessions ∧
      (r.removeAll w).2.2.calls = w.calls ++ closings.map (·.call) ∧
      (r.removeAll w).2.1.sessions = (closings.filter (·.isRefused)).map (·.session) := by
  rw [h.removeAll_eq]
  exact ⟨_, map_session_closeEach r.sessions w, calls_closeEach r.sessions w, rfl⟩

/-! ## What becomes of the sessions -/

variable {closings : List Closing}

/-- Those whose removal was attempted stay, or go. -/
theorem length_settle (hmap : closings.map (·.session) = r.sessions) :
    closings.countP (!·.isRefused) + (r.settle [] closings).length = r.length := by
  have hcount : closings.length =
      closings.countP (·.isRefused) + closings.countP (!·.isRefused) := by
    simpa using List.length_eq_countP_add_countP Closing.isRefused
  simp only [length, settle, ← hmap, List.nil_append, List.length_map,
    ← List.countP_eq_length_filter]
  omega

/-- A session whose channel is not closed is as it was, and one whose channel is closed has lost
it. -/
theorem Numbered.current_settle (h : (r.settle [] closings).Numbered) {c : Closing}
    (hc : c ∈ closings) (index : Nat) :
    (r.settle [] closings).current ⟨index, c.session⟩ =
      if c.isRefused then c.session else c.session.unbind := by
  split
  next hrefused =>
    refine h.current_eq (List.mem_append_left _ ?_) rfl
    exact List.mem_map_of_mem (List.mem_filter.2 ⟨hc, hrefused⟩)
  next hclosed =>
    refine h.current_eq (List.mem_append_right _ (List.mem_append_left _ ?_)) rfl
    have hclosed : (!c.isRefused) = true := by simpa using hclosed
    exact List.mem_reverse.2 (List.mem_map_of_mem (List.mem_filter.2 ⟨hc, hclosed⟩))

/-- A session that was removed has no channel any more. -/
theorem Numbered.unbound_of_retired (h : r.Numbered) (hs : s ∈ r.retired) :
    s.channel = .invalid ∧ s.state = .unbound := by
  rw [← h.dead s hs]
  exact ⟨rfl, rfl⟩

/-- Whatever the transport answers, to remove all sessions of a table that operations have made is
to ask it once for each of them, in table order, to close the channel of that session under its tag.
The sessions whose channels it closes are counted and lose them; all others stay as they are, in
their order, and nothing else has a channel. So each session is counted or stays, and over a
transport that closes any channel none stays. -/
theorem removeAll_run (capacity : Nat) (operations : List Operation) (peers : ω)
    (w : Recorded ω) :
    let r := (run operations (empty capacity) peers).1
    let closings := (closeEach r.sessions w).1
    let removed := (r.removeAll w).1
    let left := (r.removeAll w).2.1
    closings.map (·.session) = r.sessions ∧
    (r.removeAll w).2.2.calls = w.calls ++ closings.map (·.call) ∧
    removed = closings.countP (!·.isRefused) ∧
    left.sessions = (closings.filter (·.isRefused)).map (·.session) ∧
    (∀ c ∈ closings, ∀ index, left.current ⟨index, c.session⟩ =
      if c.isRefused then c.session else c.session.unbind) ∧
    (∀ s ∈ left.retired, s.channel = .invalid ∧ s.state = .unbound) ∧
    removed + left.length = r.length ∧
    ((∀ tag channel (peers : ω), (Transport.closeChannel tag channel peers).1 = .ok ()) →
      left.sessions = [] ∧ removed = r.length) := by
  intro r closings removed left
  obtain ⟨hsound, hnumbered, -⟩ := sound_run capacity operations peers
  have heq : r.removeAll w = (closings.countP (!·.isRefused), r.settle [] closings,
      (closeEach r.sessions w).2) := hsound.removeAll_eq w
  have hremoved : removed = closings.countP (!·.isRefused) := congrArg (·.1) heq
  have hleft : left = r.settle [] closings := congrArg (·.2.1) heq
  have hcalls : (r.removeAll w).2.2.calls = w.calls ++ closings.map (·.call) := by
    rw [heq]
    exact calls_closeEach r.sessions w
  have hmap : closings.map (·.session) = r.sessions := map_session_closeEach r.sessions w
  have hafter : left.Numbered := (evolves_removeEach r.tags r w).numbered hnumbered
  have hlength : removed + left.length = r.length := by
    rw [hremoved, hleft]
    exact length_settle hmap
  refine ⟨hmap, hcalls, hremoved, by rw [hleft]; rfl, fun c hc index ↦ ?_,
    fun s hs ↦ hafter.unbound_of_retired hs, hlength, fun hclose ↦ ?_⟩
  · rw [hleft] at hafter ⊢
    exact hafter.current_settle hc index
  · have hopen : closings.filter (·.isRefused) = [] :=
      filter_isRefused_closeEach (fun tag channel w' ↦ hclose tag channel w'.peers) r.sessions w
    have hnone : left.sessions = [] := by
      rw [hleft]
      simp [settle, hopen]
    refine ⟨hnone, ?_⟩
    rw [← hlength, length, hnone]
    rfl

/-- Of three sessions the second has lost its channel at the modem. It alone stays. -/
example :
    let made := run [.add 1, .add 2, .add 3] (empty 8) (⟨{}, {}⟩ : Testbed)
    let (removed, left, _) :=
      made.1.removeAll (Transport.closeChannel 2 (.ofNat 1) made.2).2
    removed = 2 ∧ left.bindings = [(2, .ofNat 1)] := by decide

end Registry

end ModemMux
