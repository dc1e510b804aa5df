import ModemMux.Proofs.Registry.Identity
import ModemMux.Trace

/-!
# The session table as a ledger

Whatever a transport answers, the table is what its answers make of it: `Call.outstanding` reads off
the recorded calls which openings have succeeded and were not closed again, and
`Registry.bindings_eq_outstanding` says that after any run of operations these are the live
sessions, in the same order. Each operation keeps the account (`Registry.Accounts.perform`), on
every branch on which it can fail. A run evolves the table besides, so that whatever holds of
evolved tables holds after it (`Registry.sound_run`).
-/

namespace ModemMux

/-! ## What the calls say -/

namespace Call

/-- The open channels after one more call. An opening counts if it yields an id that can name a
channel, a closing if it succeeds. -/
def settle (held : List (Tag × ChannelId)) : Call → List (Tag × ChannelId)
  | .openChannel tag (.ok channel) => if channel.isValid then held ++ [(tag, channel)] else held
  | .closeChannel tag channel (.ok ()) => held.erase (tag, channel)
  | _ => held

/-- The channels that were opened and not closed again, in order of opening. -/
def outstanding (calls : List Call) : List (Tag × ChannelId) := calls.foldl settle []

@[simp] theorem outstanding_concat (calls : List Call) (call : Call) :
    outstanding (calls ++ [call]) = settle (outstanding calls) call := by
  simp [outstanding]

/-- Whether every closing that succeeds is of a channel that is open at that time. -/
def ClosesOpen (calls : List Call) : Prop :=
  ∀ i tag channel, calls[i]? = some (.closeChannel tag channel (.ok ())) →
    (tag, channel) ∈ outstanding (calls.take i)

/-- Channels are closed only while they are open, if the next one that is closed is open. -/
theorem ClosesOpen.concat {calls : List Call} (h : ClosesOpen calls) {call : Call}
    (hcall : ∀ tag channel, call = .closeChannel tag channel (.ok ()) →
      (tag, channel) ∈ outstanding calls) : ClosesOpen (calls ++ [call]) := by
  intro i tag channel hi
  rcases Nat.lt_trichotomy i calls.length with hlt | rfl | hgt
  · rw [List.getElem?_append_left hlt] at hi
    rw [List.take_append_of_le_length (Nat.le_of_lt hlt)]
    exact h i tag channel hi
  · rw [List.getElem?_concat_length, Option.some.injEq] at hi
    rw [List.take_left]
    exact hcall tag channel hi
  · have hlen : (calls ++ [call]).length ≤ i := by
      simp only [List.length_append, List.length_singleton]
      omega
    rw [List.getElem?_eq_none hlen] at hi
    cases hi

end Call

namespace Registry

variable {ω : Type} [Transport ω]

/-! ## Runs of a table -/

/-- What can be asked of a table. -/
inductive Operation where
  | add (tag : Tag)
  | remove (tag : Tag)
  | removeAll
  /-- Asks a session to stop or to restart. -/
  | request (tag : Tag) (engage : Bool)
  | count (tag : Tag) (bytes : UInt64) (direction : Direction)
  | lookup (tag : Tag)
  deriving DecidableEq, Repr

def perform (operation : Operation) (r : Registry) (peers : ω) : Registry × ω :=
  match operation with
  | .add tag => (r.add tag peers).2
  | .remove tag => (r.remove tag peers).2
  | .removeAll => (r.removeAll peers).2
  | .request tag engage => ((r.request tag engage).2, peers)
  | .count tag bytes direction => ((r.count tag bytes direction).2, peers)
  | .lookup _ => (r, peers)

def run (operations : List Operation) (r : Registry) (peers : ω) : Registry × ω :=
  operations.foldl (fun s operation ↦ perform operation s.1 s.2) (r, peers)

/-- An operation changes the table as its steps do. -/
theorem exists_evolves_perform (operation : Operation) (r : Registry) (peers : ω) :
    ∃ gone counted, Evolves r gone counted (perform operation r peers).1 := by
  cases operation with
  | add tag => exact ⟨_, _, evolves_add tag r peers⟩
  | remove tag => exact ⟨_, _, evolves_remove tag r peers⟩
  | removeAll => exact ⟨_, _, evolves_removeEach r.tags r peers⟩
  | request tag engage => exact ⟨_, _, Evolves.refl.request⟩
  | count tag bytes direction => exact ⟨_, _, evolves_count tag bytes direction r⟩
  | lookup tag => exact ⟨_, _, .refl⟩

/-- A run of operations changes the table as their steps do. -/
theorem exists_evolves_run (operations : List Operation) (r : Registry) (peers : ω) :
    ∃ gone counted, Evolves r gone counted (run operations r peers).1 := by
  induction operations generalizing r peers with
  | nil => exact ⟨_, _, .refl⟩
  | cons operation operations ih =>
    obtain ⟨_, _, hfirst⟩ := exists_evolves_perform operation r peers
    obtain ⟨_, _, hrest⟩ := ih (perform operation r peers).1 (perform operation r peers).2
    exact ⟨_, _, hfirst.trans hrest⟩

/-- What holds of every table that was made by operations. -/
theorem sound_run (capacity : Nat) (operations : List Operation) (peers : ω) :
    (run operations (empty capacity) peers).1.Sound ∧
      (run operations (empty capacity) peers).1.Numbered ∧
      (run operations (empty capacity) peers).1.capacity = capacity := by
  obtain ⟨_, _, h⟩ := exists_evolves_run operations (empty capacity) peers
  exact ⟨h.sound (sound_of_sessions_eq_nil rfl), h.numbered (numbered_empty capacity),
    h.capacity_eq⟩

/-! ## The account -/

/-- What holds of a table with its capacity and of the calls that led to it. -/
structure Accounts (capacity : Nat) (r : Registry) (w : Recorded ω) : Prop where
  sound : r.Sound
  capacity_eq : r.capacity = capacity
  bindings_eq : r.bindings = Call.outstanding w.calls
  closesOpen : Call.ClosesOpen w.calls

variable {capacity : Nat} {r : Registry} {w : Recorded ω}

omit [Transport ω] in
/-- Before the first call, the empty table agrees with the calls. -/
theorem accounts_empty (capacity : Nat) (peers : ω) :
    Accounts capacity (empty capacity) (.fresh peers) where
  sound := sound_of_sessions_eq_nil rfl
  capacity_eq := rfl
  bindings_eq := rfl
  closesOpen i tag channel hi := by simp [Recorded.fresh] at hi

/-- An attempt to add a session keeps the table in agreement with the calls. -/
theorem Accounts.add (h : Accounts capacity r w) (tag : Tag) :
    Accounts capacity (r.add tag w).2.1 (r.add tag w).2.2 := by
  have hadds := adds_add tag r w
  have hsound := hadds.sound h.sound
  have hcapacity := hadds.capacity_eq.trans h.capacity_eq
  generalize r.add tag w = outcome at hadds hsound hcapacity
  cases hadds with
  | invalidTag | sessionExists | full => exact h
  | refused _ _ _ hopen =>
    have hcalls := Recorded.calls_openChannel hopen
    exact ⟨hsound, hcapacity, by simpa [hcalls, Call.settle] using h.bindings_eq,
      hcalls ▸ h.closesOpen.concat (by simp)⟩
  | unusable _ _ _ hopen hvalid =>
    have hcalls := Recorded.calls_openChannel hopen
    exact ⟨hsound, hcapacity, by simpa [hcalls, Call.settle, hvalid] using h.bindings_eq,
      hcalls ▸ h.closesOpen.concat (by simp)⟩
  | added _ _ _ hopen hvalid =>
    have hcalls := Recorded.calls_openChannel hopen
    exact ⟨hsound, hcapacity, by simp [hcalls, Call.settle, hvalid, h.bindings_eq],
      hcalls ▸ h.closesOpen.concat (by simp)⟩

/-- An attempt to remove a session keeps the table in agreement with the calls. -/
theorem Accounts.remove (h : Accounts capacity r w) (tag : Tag) :
    Accounts capacity (r.remove tag w).2.1 (r.remove tag w).2.2 := by
  have hremoves := removes_remove tag r w
  have hsound := hremoves.sound h.sound
  have hcapacity := hremoves.capacity_eq.trans h.capacity_eq
  generalize r.remove tag w = outcome at hremoves hsound hcapacity
  cases hremoves with
  | unknown | unusable => exact h
  | refused _ _ hclose =>
    have hcalls := Recorded.calls_closeChannel hclose
    exact ⟨hsound, hcapacity, by simpa [hcalls, Call.settle] using h.bindings_eq,
      hcalls ▸ h.closesOpen.concat (by simp)⟩
  | @removed s _ hs _ hclose =>
    have hcalls := Recorded.calls_closeChannel hclose
    obtain rfl := tag_of_find? hs
    have hmem := mem_of_find? hs
    refine ⟨hsound, hcapacity, ?_, hcalls ▸ h.closesOpen.concat ?_⟩
    · simp [hcalls, Call.settle, h.sound.bindings_retire hmem, h.bindings_eq]
    · rintro tag channel ⟨⟩
      exact h.bindings_eq ▸ mem_bindings_iff.2 ⟨s, hmem, rfl, rfl⟩

/-- Each operation keeps the account. -/
theorem Accounts.perform (h : Accounts capacity r w) (operation : Operation) :
    Accounts capacity (perform operation r w).1 (perform operation r w).2 := by
  cases operation with
  | add tag => exact h.add tag
  | remove tag => exact h.remove tag
  | removeAll =>
    exact removeEach_induction (P := Accounts capacity) (fun tag _ _ h ↦ h.remove tag) r.tags h
  | request tag engage =>
    exact ⟨h.sound.request, capacity_request.trans h.capacity_eq,
      bindings_request.trans h.bindings_eq, h.closesOpen⟩
  | count tag bytes direction =>
    exact ⟨h.sound.count, capacity_count.trans h.capacity_eq,
      bindings_count.trans h.bindings_eq, h.closesOpen⟩
  | lookup tag => exact h

/-- A run of operations keeps the table in agreement with the calls. -/
theorem Accounts.run (h : Accounts capacity r w) (operations : List Operation) :
    Accounts capacity (run operations r w).1 (run operations r w).2 := by
  induction operations generalizing r w with
  | nil => exact h
  | cons operation operations ih => exact ih (h.perform operation)

omit [Transport ω] in
/-- A tag is found at the place where its channel stands among those outstanding. -/
theorem Accounts.lookup_iff (h : Accounts capacity r w) {tag : Tag} {i : Nat}
    {channel : ChannelId} :
    (∃ e, r.lookup tag = some e ∧ e.index = i ∧ e.session.channel = channel) ↔
      (Call.outstanding w.calls)[i]? = some (tag, channel) := by
  simp only [← h.bindings_eq, bindings, List.getElem?_map, Option.map_eq_some_iff,
    Prod.mk.injEq, h.sound.lookup_eq_some_iff]
  constructor
  · rintro ⟨e, ⟨hi, htag⟩, rfl, hchannel⟩
    exact ⟨e.session, hi, htag, hchannel⟩
  · rintro ⟨s, hi, htag, hchannel⟩
    exact ⟨⟨i, s⟩, ⟨hi, htag⟩, rfl, hchannel⟩

omit [Transport ω] in
theorem Accounts.index_lt (h : Accounts capacity r w) {tag : Tag} {e : Entry}
    (he : r.lookup tag = some e) : e.index < capacity := by
  obtain ⟨hlt, -⟩ := List.getElem?_eq_some_iff.1 (h.sound.lookup_eq_some_iff.1 he).1
  exact h.capacity_eq ▸ Nat.lt_of_lt_of_le hlt h.sound.length_le

/-- After any run of operations over any transport the live sessions are, in order, the channels
that the transport has opened and not closed again. Their tags are distinct session tags, there are
no more of them than the capacity allows, and each has a channel and is bound. So a removal never
finds a session without a channel, a lookup finds the sessions at their places in that list, and no
closing succeeds but that of a channel that is open. -/
theorem bindings_eq_outstanding (capacity : Nat) (peers : ω) (operations : List Operation) :
    let r := (run operations (empty capacity) (Recorded.fresh peers)).1
    let w := (run operations (empty capacity) (Recorded.fresh peers)).2
    (r.tags.Nodup ∧ ∀ tag ∈ r.tags,
      1 ≤ tag.toNat ∧ tag.toNat ≤ 255 ∨ 257 ≤ tag.toNat ∧ tag.toNat ≤ 511) ∧
    r.length ≤ capacity ∧
    (∀ s ∈ r.sessions,
      0 ≤ s.channel.raw ∧ (s.state = .runnable ∨ s.state = .flowControlled)) ∧
    r.bindings = Call.outstanding w.calls ∧
    (∀ tag tag', (r.remove tag w).1 ≠ .error (.invalidChannel tag')) ∧
    (∀ tag i channel,
      (∃ e, r.lookup tag = some e ∧ e.index = i ∧ e.session.channel = channel) ↔
        (Call.outstanding w.calls)[i]? = some (tag, channel)) ∧
    (∀ tag e, r.lookup tag = some e → e.index < capacity) ∧
    Call.ClosesOpen w.calls := by
  intro r w
  have h : Accounts capacity r w := (accounts_empty capacity peers).run operations
  refine ⟨⟨h.sound.nodup, fun tag htag ↦ ?_⟩, ?_, fun s hs ↦ ⟨?_, ?_⟩, h.bindings_eq,
    fun tag tag' ↦ h.sound.remove_ne_invalidChannel tag tag' w, fun _ _ _ ↦ h.lookup_iff,
    fun _ _ ↦ h.index_lt, h.closesOpen⟩
  · obtain ⟨s, hs, rfl⟩ := mem_tags_iff.1 htag
    rw [← Tag.classify_eq_data_iff, ← Tag.classify_eq_control_iff, ← Tag.isSession_iff]
    exact h.sound.isSession s hs
  · exact h.capacity_eq ▸ h.sound.length_le
  · simpa [ChannelId.isValid] using h.sound.isValid s hs
  · have hbound := h.sound.bound s hs
    cases hstate : s.state with
    | unbound => exact absurd hstate hbound
    | runnable => exact .inl rfl
    | flowControlled => exact .inr rfl

end Registry

end ModemMux
