import Mathlib.Algebra.GroupWithZero.Nat
import ModemMux.CommandLine
import ModemMux.Proofs.Text.Blank
import ModemMux.Proofs.Text.Digits

/-!
# Written time limits

A time limit is a number with a unit directly behind it, or with none, and nothing but blanks around
both (`Duration.Limits`). One unit is the end of the other, so `cutUnit` has to try the longer one
first; a number ends in a digit, so what is cut off is never part of it (`Duration.amount_iff`).
What a text is read as follows from the amount in it, if there is one (`Duration.parse_of_amount`),
and `Duration.parse_limits` says which texts are read, and how the others are refused.
-/

namespace ModemMux.Duration

open Text

variable {c : Char} {cs core : List Char} {text : String} {n unit : Nat}

/-! ## A number and its unit -/

/-- The spellings of a number of units: the number, and the milliseconds in one unit. Without a unit
the number counts seconds. -/
inductive Amount : List Char → Nat → Nat → Prop where
  | plain {cs : List Char} {n : Nat} (hnumber : Number cs n) : Amount cs n 1000
  | seconds {cs : List Char} {n : Nat} (hnumber : Number cs n) : Amount (cs ++ ['s']) n 1000
  | milliseconds {cs : List Char} {n : Nat} (hnumber : Number cs n) :
    Amount (cs ++ ['m', 's']) n 1

theorem cutUnit_milliseconds (cs : List Char) : cutUnit (cs ++ ['m', 's']) = (cs, 1) := by
  simp [cutUnit]

theorem cutUnit_seconds (hc : c ≠ 'm') : cutUnit (cs ++ [c] ++ ['s']) = (cs ++ [c], 1000) := by
  simp [cutUnit, hc]

theorem cutUnit_plain (hc : c ≠ 's') : cutUnit (cs ++ [c]) = (cs ++ [c], 1000) := by
  simp [cutUnit, hc]

theorem digit_ne (hc : c.isDigit) : c ≠ 'm' ∧ c ≠ 's' := by
  constructor
  · rintro rfl
    cases hc
  · rintro rfl
    cases hc

/-- What is cut off, if anything, is one of the two units. -/
theorem cutUnit_cases (cs : List Char) :
    (∃ front, cs = front ++ ['m', 's'] ∧ cutUnit cs = (front, 1)) ∨
    (∃ front, cs = front ++ ['s'] ∧ cutUnit cs = (front, 1000)) ∨ cutUnit cs = (cs, 1000) := by
  unfold cutUnit
  split
  next front hreverse =>
    refine .inl ⟨front.reverse, ?_, rfl⟩
    rw [← List.reverse_reverse cs, hreverse]
    simp
  next front _ hreverse =>
    refine .inr (.inl ⟨front.reverse, ?_, rfl⟩)
    rw [← List.reverse_reverse cs, hreverse, List.reverse_cons]
  next => exact .inr (.inr rfl)

/-- An amount is a number in front of the unit that is cut off. -/
theorem amount_iff : Amount cs n unit ↔ Number (cutUnit cs).1 n ∧ (cutUnit cs).2 = unit := by
  constructor
  · intro h
    cases h with
    | plain hnumber =>
      obtain ⟨front, c, rfl, hc⟩ := hnumber.exists_concat
      rw [cutUnit_plain (digit_ne hc).2]
      exact ⟨hnumber, rfl⟩
    | seconds hnumber =>
      obtain ⟨front, c, rfl, hc⟩ := hnumber.exists_concat
      rw [cutUnit_seconds (digit_ne hc).1]
      exact ⟨hnumber, rfl⟩
    | milliseconds hnumber =>
      rw [cutUnit_milliseconds]
      exact ⟨hnumber, rfl⟩
  · rintro ⟨hnumber, rfl⟩
    obtain ⟨front, rfl, hcut⟩ | ⟨front, rfl, hcut⟩ | hcut := cutUnit_cases cs
    · rw [hcut] at hnumber ⊢
      exact .milliseconds hnumber
    · rw [hcut] at hnumber ⊢
      exact .seconds hnumber
    · rw [hcut] at hnumber ⊢
      exact .plain hnumber

/-- There is no white space in a number. -/
theorem not_isBlank_of_number (h : Number cs n) : ∀ c ∈ cs, isBlank c = false := by
  intro c hc
  rcases h.forall_mem c hc with rfl | hdigit
  · rfl
  · exact not_isBlank_of_isDigit hdigit

namespace Amount

/-- An amount is never empty. -/
theorem ne_nil (h : Amount cs n unit) : cs ≠ [] := by
  rintro rfl
  obtain ⟨hnumber, -⟩ := amount_iff.1 h
  obtain ⟨front, c, hconcat, -⟩ := hnumber.exists_concat
  exact List.append_ne_nil_of_right_ne_nil front (List.cons_ne_nil c []) hconcat.symm

theorem forall_not_isBlank (h : Amount cs n unit) : ∀ c ∈ cs, isBlank c = false := by
  cases h with
  | plain hnumber => exact not_isBlank_of_number hnumber
  | seconds hnumber =>
    exact List.forall_mem_append.2
      ⟨not_isBlank_of_number hnumber, List.forall_mem_singleton.2 rfl⟩
  | milliseconds hnumber =>
    exact List.forall_mem_append.2
      ⟨not_isBlank_of_number hnumber, List.forall_mem_cons.2 ⟨rfl, List.forall_mem_singleton.2 rfl⟩⟩

end Amount

/-! ## Reading -/

/-- What is read of a number with a unit. -/
theorem parse_of_amount (hpadded : Padded core text.toList) (hamount : Amount core n unit)
    (hle : n ≤ greatest) : parse text = if n = 0 then .error .zero else .ok ⟨n * unit⟩ := by
  have htrim : trim text.toList = core := hpadded.trim_eq hamount.forall_not_isBlank
  obtain ⟨c, rest, rfl⟩ := List.exists_cons_of_ne_nil hamount.ne_nil
  obtain ⟨hnumber, rfl⟩ := amount_iff.1 hamount
  simp only [parse, htrim, unsigned?_eq_some_iff.2 ⟨hnumber, hle⟩]
  cases n with
  | zero => rfl
  | succ n => rfl

/-- A text of white space alone is refused as empty. -/
theorem parse_of_blank (hblank : ∀ c ∈ text.toList, isBlank c) :
    parse text = .error .empty := by
  simp only [parse, trim_eq_nil_iff.2 hblank]

/-- A text in which no amount of at most 64 bits is found is refused as malformed. -/
theorem parse_of_no_amount (hblank : ¬∀ c ∈ text.toList, isBlank c)
    (hlarge : ∀ core n unit, Padded core text.toList → Amount core n unit → 2 ^ 64 ≤ n) :
    parse text = .error (.malformed (String.ofList (trim text.toList))) := by
  have hread : unsigned? greatest (cutUnit (trim text.toList)).1 = none := by
    rw [Option.eq_none_iff_forall_ne_some]
    intro n hn
    -- A number there would make an amount of all that is left between the blanks.
    obtain ⟨hnumber, hle⟩ := unsigned?_eq_some_iff.1 hn
    have hge : 2 ^ 64 ≤ n := hlarge _ n _ (padded_trim text.toList) (amount_iff.2 ⟨hnumber, rfl⟩)
    exact absurd (Nat.le_trans hge hle) (by decide)
  obtain ⟨c, rest, htrim⟩ := List.exists_cons_of_ne_nil (mt trim_eq_nil_iff.1 hblank)
  rw [htrim] at hread ⊢
  simp only [parse, htrim, hread]

/-- What becomes of a text. -/
inductive Reads (text : String) : Except TimeoutFault Duration → Prop where
  | empty (hblank : ∀ c ∈ text.toList, isBlank c) : Reads text (.error .empty)
  | zero {core : List Char} {unit : Nat} (hpadded : Padded core text.toList)
    (hamount : Amount core 0 unit) : Reads text (.error .zero)
  | limit {core : List Char} {n unit : Nat} (hpadded : Padded core text.toList)
    (hamount : Amount core n unit) (hpos : 1 ≤ n) (hle : n ≤ 2 ^ 64 - 1) :
    Reads text (.ok ⟨n * unit⟩)
  | malformed (hblank : ¬∀ c ∈ text.toList, isBlank c)
    (hlarge : ∀ core n unit, Padded core text.toList → Amount core n unit → 2 ^ 64 ≤ n) :
    Reads text (.error (.malformed (String.ofList (trim text.toList))))

/-- Every way in which reading a limit can end is one of those listed. -/
theorem reads_parse (text : String) : Reads text (parse text) := by
  by_cases hblank : ∀ c ∈ text.toList, isBlank c
  · rw [parse_of_blank hblank]
    exact .empty hblank
  by_cases hsmall : ∃ core n unit, Padded core text.toList ∧ Amount core n unit ∧ n < 2 ^ 64
  · obtain ⟨core, n, unit, hpadded, hamount, hlt⟩ := hsmall
    have hle : n ≤ greatest := Nat.le_pred_of_lt hlt
    rw [parse_of_amount hpadded hamount hle]
    cases n with
    | zero => exact .zero hpadded hamount
    | succ n => exact .limit hpadded hamount (Nat.succ_pos n) hle
  · have hlarge : ∀ core n unit, Padded core text.toList → Amount core n unit → 2 ^ 64 ≤ n := by
      intro core n unit hpadded hamount
      exact Nat.le_of_not_lt fun hlt ↦ hsmall ⟨core, n, unit, hpadded, hamount, hlt⟩
    rw [parse_of_no_amount hblank hlarge]
    exact .malformed hblank hlarge

/-- The text is a time limit: a number from one to the greatest, with its unit, between blanks. -/
def Limits (text : String) (d : Duration) : Prop :=
  ∃ core n unit, Padded core text.toList ∧ Amount core n unit ∧ 1 ≤ n ∧ n ≤ 2 ^ 64 - 1 ∧
    d.milliseconds = n * unit

/-- A limit is read if the text spells it, and no other text is accepted. -/
theorem parse_eq_ok_iff {d : Duration} : parse text = .ok d ↔ Limits text d := by
  constructor
  · intro h
    have hreads := reads_parse text
    rw [h] at hreads
    cases hreads with
    | limit hpadded hamount hpos hle => exact ⟨_, _, _, hpadded, hamount, hpos, hle, rfl⟩
  · rintro ⟨core, n, unit, hpadded, hamount, hpos, hle, hd⟩
    rw [parse_of_amount hpadded hamount hle, if_neg (Nat.ne_of_gt hpos), ← hd]

/-- The reader finds nothing in white space, and only there. -/
theorem parse_eq_empty_iff : parse text = .error .empty ↔ ∀ c ∈ text.toList, isBlank c := by
  refine ⟨fun h ↦ ?_, parse_of_blank⟩
  have hreads := reads_parse text
  rw [h] at hreads
  cases hreads with
  | empty hblank => exact hblank

/-- The reader refuses an amount of zero, in whichever unit. -/
theorem parse_eq_zero_iff : parse text = .error .zero ↔
    ∃ core unit, Padded core text.toList ∧ Amount core 0 unit := by
  constructor
  · intro h
    have hreads := reads_parse text
    rw [h] at hreads
    cases hreads with
    | zero hpadded hamount => exact ⟨_, _, hpadded, hamount⟩
  · rintro ⟨core, unit, hpadded, hamount⟩
    exact parse_of_amount hpadded hamount (Nat.zero_le _)

/-- What is refused as malformed is shown without the white space around it. -/
theorem parse_eq_malformed_iff {shown : String} : parse text = .error (.malformed shown) ↔
    shown = String.ofList (trim text.toList) ∧ (¬∀ c ∈ text.toList, isBlank c) ∧
      ∀ core n unit, Padded core text.toList → Amount core n unit → 2 ^ 64 ≤ n := by
  constructor
  · intro h
    have hreads := reads_parse text
    rw [h] at hreads
    cases hreads with
    | malformed hblank hlarge => exact ⟨rfl, hblank, hlarge⟩
  · rintro ⟨rfl, hblank, hlarge⟩
    exact parse_of_no_amount hblank hlarge

/-! ## The law -/

/-- Whatever the text. It is read as a length of time if and only if, but for blanks around it, it
is a number from one to the greatest that takes 64 bits, in decimal digits behind an optional plus
sign, with `ms`, with `s` or with no unit directly behind it; a number counts milliseconds with the
first and seconds with the others. With any other text a soak ends before it starts, and the exit
code is 64. The fault tells an empty text and a number of zero from all else, which it shows without
the blanks around it. -/
theorem parse_limits (text : String) :
    (∀ d, parse text = .ok d ↔ Limits text d) ∧
    ((∀ d, ¬Limits text d) → ∃ fault, parse text = .error fault ∧
      ∀ format sessions frames memory spare clock,
        CommandLine.checkSessions "--sessions" sessions = .ok () →
        ∃ failure,
          CommandLine.soak format sessions frames text memory spare clock = .error failure ∧
          failure.code.toNat = 64 ∧ failure.message = fault.message) ∧
    (parse text = .error .empty ↔ ∀ c ∈ text.toList, isBlank c) ∧
    (parse text = .error .zero ↔ ∃ core unit, Padded core text.toList ∧ Amount core 0 unit) ∧
    ∀ shown, parse text = .error (.malformed shown) ↔
      shown = String.ofList (trim text.toList) ∧ (¬∀ c ∈ text.toList, isBlank c) ∧
        ∀ core n unit, Padded core text.toList → Amount core n unit → 2 ^ 64 ≤ n := by
  refine ⟨fun _ ↦ parse_eq_ok_iff, ?_, parse_eq_empty_iff, parse_eq_zero_iff,
    fun _ ↦ parse_eq_malformed_iff⟩
  intro hno
  cases hparse : parse text with
  | ok d => exact absurd (parse_eq_ok_iff.1 hparse) (hno d)
  | error fault =>
    refine ⟨fault, rfl, ?_⟩
    intro format sessions frames memory spare clock hsessions
    refine ⟨⟨.usage, fault.message⟩, ?_, rfl, rfl⟩
    simp only [CommandLine.soak, hsessions, hparse]

/-- Blanks around a limit, a sign and leading zeros do not keep it from being read. A blank before
its unit does, and then there is no soak. -/
theorem parse_limits_apart :
    parse "\u00a0+0150ms\n" = .ok ⟨150⟩ ∧
    (∀ d, ¬Limits "150 ms" d) ∧
    ∃ failure,
      CommandLine.soak .pretty 8 100 "150 ms" .ample .zero ⟨none, ⟨0⟩⟩ = .error failure ∧
      failure.code.toNat = 64 ∧ failure.message = "invalid timeout value: 150 ms" := by
  obtain ⟨hread, -⟩ := parse_limits "\u00a0+0150ms\n"
  obtain ⟨hlimits, hrefused, -⟩ := parse_limits "150 ms"
  have hpadded : Padded "+0150ms".toList "\u00a0+0150ms\n".toList :=
    @Padded.intro _ ['\u00a0'] ['\n'] (List.all_eq_true.1 rfl) (List.all_eq_true.1 rfl)
  have hamount : Amount "+0150ms".toList 150 1 :=
    .milliseconds (.plus (List.cons_ne_nil '0' ['1', '5', '0']) (List.all_eq_true.1 rfl))
  have hparse : parse "150 ms" = .error (.malformed "150 ms") := rfl
  have hno : ∀ d, ¬Limits "150 ms" d := by
    intro d hd
    cases hparse.symm.trans ((hlimits d).2 hd)
  refine ⟨(hread ⟨150⟩).2 ⟨_, _, _, hpadded, hamount, by decide, by decide, rfl⟩, hno, ?_⟩
  obtain ⟨fault, hfault, hsoak⟩ := hrefused hno
  obtain rfl : fault = .malformed "150 ms" := by
    cases hparse.symm.trans hfault
    rfl
  exact hsoak .pretty 8 100 .ample .zero ⟨none, ⟨0⟩⟩ (by decide)

end ModemMux.Duration
