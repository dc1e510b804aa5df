import Mathlib.Algebra.GroupWithZero.Nat
import Mathlib.Order.Bounds.Basic
import ModemMux.Proofs.Loopback.Signals

/-!
# Which channel is opened and which is closed

A modem in memory opens the channel with the least id that is free, and closes the channel that it
is told to if that is open for the given tag. Seen through `Loopback.channel?`, which finds the
channel with an id, either request changes one place of the store (`Opens.channel?_of_ne`,
`Closes.channel?_of_ne`), and a request that fails changes none. `Loopback.opening_run` says so of a
modem at any time.
-/

namespace ModemMux.Loopback

variable {l l' : Loopback} {tag : Tag} {id other : ChannelId} {c : OpenChannel}

/-- The numbers that are no open channel's. -/
def freeNumbers (l : Loopback) : Set Nat := {n | l.isOpen (.ofNat n) = false}

/-- Stores with the same channels of an id find the same channel there. -/
theorem Sound.channel?_congr (hl : l.Sound) (hl' : l'.Sound)
    (hsame : ∀ c, c.id = id → (c ∈ l'.channels ↔ c ∈ l.channels)) :
    l'.channel? id = l.channel? id := by
  ext c
  rw [hl'.channel?_eq_some_iff, hl.channel?_eq_some_iff]
  constructor
  · rintro ⟨hc, hid⟩
    exact ⟨(hsame c hid).1 hc, hid⟩
  · rintro ⟨hc, hid⟩
    exact ⟨(hsame c hid).2 hc, hid⟩

/-! ## Opening -/

/-- What becomes of an opening that is allowed. -/
theorem fst_openChannel_cases (hrefuse : l.refusesOpens = false) (tag : Tag) :
    (∃ n < l.idBound, IsLeast l.freeNumbers n ∧ (l.openChannel tag).1 = .ok (.ofNat n)) ∨
      (∀ n < l.idBound, l.isOpen (.ofNat n)) ∧
        (l.openChannel tag).1 = .error (.exhausted tag) := by
  have hopens := opens_openChannel l tag
  generalize l.openChannel tag = outcome at hopens
  cases hopens with
  | refused hrefuse' =>
    rw [hrefuse] at hrefuse'
    cases hrefuse'
  | exhausted _ hfull => exact .inr ⟨hfull, rfl⟩
  | @opened n _ hn hfree hleast =>
    refine .inl ⟨n, hn, ⟨hfree, ?_⟩, rfl⟩
    intro m hm
    by_contra hlt
    exact absurd (hleast m (Nat.not_le.1 hlt)) (by rw [hm]; exact Bool.false_ne_true)

/-- An opening that is allowed gets the least free number, if that is below the bound. -/
theorem fst_openChannel_eq_ok_iff (hrefuse : l.refusesOpens = false) :
    (l.openChannel tag).1 = .ok id ↔
      ∃ n < l.idBound, id = .ofNat n ∧ IsLeast l.freeNumbers n := by
  rcases fst_openChannel_cases hrefuse tag with ⟨n, hn, hleast, hok⟩ | ⟨hfull, herror⟩
  · rw [hok]
    constructor
    · rintro ⟨⟩
      exact ⟨n, hn, rfl, hleast⟩
    · rintro ⟨m, -, rfl, hm⟩
      rw [hm.unique hleast]
  · rw [herror]
    constructor
    · intro h
      cases h
    · rintro ⟨n, hn, -, hfree, -⟩
      exact absurd (hfull n hn) (by rw [hfree]; exact Bool.false_ne_true)

/-- An opening that is allowed fails if and only if every number below the bound is in use. -/
theorem fst_openChannel_eq_exhausted_iff (hrefuse : l.refusesOpens = false) :
    (l.openChannel tag).1 = .error (.exhausted tag) ↔ ∀ n < l.idBound, l.isOpen (.ofNat n) := by
  rcases fst_openChannel_cases hrefuse tag with ⟨n, hn, ⟨hfree, -⟩, hok⟩ | ⟨hfull, herror⟩
  · rw [hok]
    constructor
    · intro h
      cases h
    · intro hfull
      exact absurd (hfull n hn) (by rw [hfree]; exact Bool.false_ne_true)
  · exact ⟨fun _ ↦ hfull, fun _ ↦ herror⟩

/-- No other fault keeps a channel from being opened where that is allowed. -/
theorem eq_exhausted_of_fst_openChannel (hrefuse : l.refusesOpens = false) {e : ChannelError}
    (he : (l.openChannel tag).1 = .error e) : e = .exhausted tag := by
  rcases fst_openChannel_cases hrefuse tag with ⟨n, -, -, hok⟩ | ⟨-, herror⟩
  · rw [hok] at he
    cases he
  · rw [herror] at he
    exact (Except.error.inj he).symm

namespace Opens

/-- The new channel is blank, whatever another one with its id had in its queue. -/
theorem channel?_self (h : Opens l tag (.ok id, l')) (hl : l.Sound) :
    l'.channel? id = some (.blank id tag (l.depthFor tag)) := by
  have hl' : l'.Sound := h.sound hl
  exact hl'.channel?_eq_some_iff.2 ⟨h.mem_channels_iff.2 (.inl rfl), rfl⟩

/-- An opening leaves the other channels alone. -/
theorem channel?_of_ne (h : Opens l tag (.ok id, l')) (hl : l.Sound) (hne : other ≠ id) :
    l'.channel? other = l.channel? other := by
  apply hl.channel?_congr (h.sound hl)
  rintro c rfl
  rw [h.mem_channels_iff]
  constructor
  · rintro (rfl | hc)
    · exact absurd rfl hne
    · exact hc
  · exact .inr

end Opens

/-! ## Closing -/

/-- A channel closes if and only if it is open and bound to the tag. -/
theorem fst_closeChannel_eq_ok_iff :
    (l.closeChannel tag id).1 = .ok () ↔ ∃ c, l.channel? id = some c ∧ c.tag = tag := by
  have hcloses := closes_closeChannel l tag id
  generalize l.closeChannel tag id = outcome at hcloses
  cases hcloses with
  | notOpen hc => simp [hc]
  | mismatch hc hne => simp [hc, hne]
  | closed hc htag => simp [hc, htag]

namespace Closes

/-- A closing takes one channel away and no other. -/
theorem mem_channels_iff (h : Closes l tag id (.ok (), l')) :
    c ∈ l'.channels ↔ c ∈ l.channels ∧ c.id ≠ id := by
  cases h
  simp

/-- After a closing the id is free. -/
theorem channel?_self (h : Closes l tag id (.ok (), l')) : l'.channel? id = none := by
  apply channel?_eq_none_iff.2
  intro c hc
  exact (h.mem_channels_iff.1 hc).2

/-- A closing leaves the other channels alone. -/
theorem channel?_of_ne (h : Closes l tag id (.ok (), l')) (hl : l.Sound) (hne : other ≠ id) :
    l'.channel? other = l.channel? other := by
  apply hl.channel?_congr (h.sound hl)
  rintro c rfl
  rw [h.mem_channels_iff]
  exact and_iff_left hne

end Closes

/-! ## The law -/

/-- A modem in memory at any time after it was set up, whatever was asked of it. An opening that is
allowed gets the least number that is no open channel's, if that is below the bound, and fails for
want of a channel if and only if every number below the bound is in use. The new channel is bound to
its tag, has nothing in its queue and has asked for no stop, and every other channel stays as it is.
A closing succeeds if and only if the channel is open for the given tag; then that channel goes and
no other. An opening, a closing or a payload that fails leaves the whole modem as it is. -/
theorem opening_run (config : LoopbackConfig) (before : List Request) (tag : Tag) :
    let l := (run before { config }).2
    let bound := min config.maxChannels (2 ^ 31)
    (l.refusesOpens = false →
      (∀ id, (l.openChannel tag).1 = .ok id ↔
        ∃ n < bound, id = .ofNat n ∧ IsLeast {k | l.isOpen (.ofNat k) = false} n) ∧
      ((l.openChannel tag).1 = .error (.exhausted tag) ↔ ∀ n < bound, l.isOpen (.ofNat n)) ∧
      ∀ e, (l.openChannel tag).1 = .error e → e = .exhausted tag) ∧
    (∀ id opened, l.openChannel tag = (.ok id, opened) →
      (∃ c, opened.channel? id = some c ∧ c.tag = tag ∧ c.queue = [] ∧ c.throttled = false) ∧
      (∀ other, other ≠ id → opened.channel? other = l.channel? other) ∧
      opened = { l with channels := opened.channels }) ∧
    (∀ id, (l.closeChannel tag id).1 = .ok () ↔ ∃ c, l.channel? id = some c ∧ c.tag = tag) ∧
    (∀ id closed, l.closeChannel tag id = (.ok (), closed) →
      closed.channel? id = none ∧
      (∀ other, other ≠ id → closed.channel? other = l.channel? other) ∧
      closed = { l with channels := closed.channels }) ∧
    (∀ e failed, l.openChannel tag = (.error e, failed) → failed = l) ∧
    (∀ id e failed, l.closeChannel tag id = (.error e, failed) → failed = l) ∧
    ∀ id payload e signals failed, l.submit tag id payload = (.error e, signals, failed) →
      signals = [] ∧ failed = l := by
  intro l bound
  have hl : l.Sound := sound_run (sound_of_channels_eq_nil rfl) before
  have hbound : l.idBound = bound := by
    have hconfig : l.config = config := config_run _ before
    rw [idBound, hconfig]
    rfl
  rw [← hbound]
  refine ⟨?_, ?_, ?_, ?_, ?_, ?_, ?_⟩
  · intro hrefuse
    refine ⟨fun id ↦ fst_openChannel_eq_ok_iff hrefuse,
      fst_openChannel_eq_exhausted_iff hrefuse, ?_⟩
    intro e he
    exact eq_exhausted_of_fst_openChannel hrefuse he
  · intro id opened hopened
    have hopens := opens_openChannel l tag
    rw [hopened] at hopens
    refine ⟨⟨_, hopens.channel?_self hl, rfl, rfl, rfl⟩, fun _ ↦ hopens.channel?_of_ne hl, ?_⟩
    cases hopens
    rfl
  · intro id
    exact fst_closeChannel_eq_ok_iff
  · intro id closed hclosed
    have hcloses := closes_closeChannel l tag id
    rw [hclosed] at hcloses
    refine ⟨hcloses.channel?_self, fun _ ↦ hcloses.channel?_of_ne hl, ?_⟩
    cases hcloses
    rfl
  · intro e failed hfailed
    have hopens := opens_openChannel l tag
    rw [hfailed] at hopens
    exact hopens.eq_of_error
  · intro id e failed hfailed
    have hcloses := closes_closeChannel l tag id
    rw [hfailed] at hcloses
    exact hcloses.eq_of_error
  · intro id payload e signals failed hfailed
    have hsubmits := submits_submit l tag id payload
    rw [hfailed] at hsubmits
    exact hsubmits.eq_of_error

/-- Three channels are opened, and one of them goes with a payload in its queue. -/
def leaveHole : List Request :=
  [.openChannel 1, .openChannel 2, .openChannel 257, .submit 2 (.ofNat 1) [7],
    .closeChannel 2 (.ofNat 1)]

/-- While all three are open there is no channel for another session. The one that has gone leaves
its id, which the next channel gets without the payload; and that channel closes for its own tag
alone. -/
theorem opening_leaveHole :
    let full := (run (leaveHole.take 4) { config := ⟨3, none⟩ }).2
    let l := (run leaveHole { config := ⟨3, none⟩ }).2
    (full.openChannel 9).1 = .error (.exhausted 9) ∧
    (l.openChannel 9).1 = .ok (.ofNat 1) ∧
    (∃ c, (l.openChannel 9).2.channel? (.ofNat 1) = some c ∧ c.tag = 9 ∧ c.queue = []) ∧
    (l.openChannel 9).2.channel? (.ofNat 2) = l.channel? (.ofNat 2) ∧
    (l.closeChannel 9 (.ofNat 2)).2 = l ∧ (l.closeChannel 257 (.ofNat 2)).1 = .ok () := by
  intro full l
  have hrefuse : full.refusesOpens = false ∧ l.refusesOpens = false := ⟨rfl, rfl⟩
  have hmismatch : (l.closeChannel 9 (.ofNat 2)).1 = .error (.tagMismatch (.ofNat 2) 9 257) := rfl
  obtain ⟨hfull, -⟩ := opening_run ⟨3, none⟩ (leaveHole.take 4) 9
  obtain ⟨hopen, hopened, -, -, -, hclosing, -⟩ := opening_run ⟨3, none⟩ leaveHole 9
  obtain ⟨-, -, hclose, -⟩ := opening_run ⟨3, none⟩ leaveHole 257
  have hok : (l.openChannel 9).1 = .ok (.ofNat 1) := by
    refine ((hopen hrefuse.2).1 (.ofNat 1)).2 ⟨1, by decide, rfl, rfl, ?_⟩
    intro m hm
    rcases m with _ | m
    · cases hm
    · exact Nat.le_add_left 1 m
  have hexhausted : (full.openChannel 9).1 = .error (.exhausted 9) := by
    have hused : ∀ n < 3, full.isOpen (.ofNat n) := by decide
    refine (hfull hrefuse.1).2.1.2 ?_
    intro n hn
    exact hused n (Nat.lt_of_lt_of_le hn (Nat.min_le_left 3 _))
  obtain ⟨⟨c, hc, htag, hqueue, -⟩, hothers, -⟩ := hopened _ _ (Prod.ext hok rfl)
  refine ⟨hexhausted, hok, ⟨c, hc, htag, hqueue⟩, hothers _ (by decide), ?_, ?_⟩
  · exact hclosing _ _ _ (Prod.ext hmismatch rfl)
  · exact (hclose (.ofNat 2)).2 ⟨_, rfl, rfl⟩

end ModemMux.Loopback
