import Mathlib.Data.List.TakeWhile
import ModemMux.Text.Blank

/-!
# Blanks around and among the characters of a text

`Padded` puts blanks at the ends of a text and `trim` takes them away; `Spaced` puts them in
anywhere and `removeBlanks` takes them out. Either is undone if what was there has no blank itself
(`Padded.trim_eq`, `Spaced.removeBlanks_eq`), and what is taken away was only ever blanks
(`padded_trim`, `spaced_removeBlanks`).
-/

namespace ModemMux.Text

variable {c : Char} {core cs text : List Char}

/-- No visible ASCII character is blank. -/
theorem isBlank_eq_false (hlow : 0x20 < c.toNat) (hhigh : c.toNat < 0x7F) : isBlank c = false := by
  simp only [isBlank, blankRanges, List.any_cons, List.any_nil, Bool.or_eq_false_iff,
    Bool.and_eq_false_iff, decide_eq_false_iff_not, and_true]
  omega

theorem not_isBlank_of_isDigit (hc : c.isDigit) : isBlank c = false := by
  rw [Char.isDigit, Bool.and_eq_true, decide_eq_true_eq, decide_eq_true_eq] at hc
  obtain ⟨hlow, hhigh⟩ := hc
  exact isBlank_eq_false (Nat.lt_of_lt_of_le (by decide) (UInt32.le_iff_toNat_le.1 hlow))
    (Nat.lt_of_le_of_lt (UInt32.le_iff_toNat_le.1 hhigh) (by decide))

/-! ## At the ends -/

/-- The text is `core` with any number of blanks at either end. -/
inductive Padded (core : List Char) : List Char → Prop where
  | intro {before after : List Char} (hbefore : ∀ c ∈ before, isBlank c)
    (hafter : ∀ c ∈ after, isBlank c) : Padded core (before ++ core ++ after)

theorem dropWhile_eq_self (h : ∀ c ∈ cs, isBlank c = false) : cs.dropWhile isBlank = cs := by
  rw [List.dropWhile_eq_self_iff]
  intro hpos
  exact Bool.eq_false_iff.1 (h _ (List.getElem_mem hpos))

/-- A text is what is left of it after trimming, with blanks at its ends. -/
theorem padded_trim (text : List Char) : Padded (trim text) text := by
  let rest := text.dropWhile isBlank
  have hfront : ∀ c ∈ text.takeWhile isBlank, isBlank c := fun c hc ↦ List.mem_takeWhile_imp hc
  have hback : ∀ c ∈ (rest.reverse.takeWhile isBlank).reverse, isBlank c := by
    intro c hc
    exact List.mem_takeWhile_imp (List.mem_reverse.1 hc)
  have hrest : trim text ++ (rest.reverse.takeWhile isBlank).reverse = rest := by
    rw [trim, ← List.reverse_append, List.takeWhile_append_dropWhile, List.reverse_reverse]
  have hpadded : Padded (trim text)
      (text.takeWhile isBlank ++ trim text ++ (rest.reverse.takeWhile isBlank).reverse) :=
    .intro hfront hback
  rwa [List.append_assoc, hrest, List.takeWhile_append_dropWhile] at hpadded

/-- Nothing is left of a text of blanks, and of no other. -/
theorem trim_eq_nil_iff : trim text = [] ↔ ∀ c ∈ text, isBlank c := by
  constructor
  · intro h
    have hpadded := padded_trim text
    rw [h] at hpadded
    obtain ⟨hbefore, hafter⟩ := hpadded
    rw [List.append_nil]
    exact List.forall_mem_append.2 ⟨hbefore, hafter⟩
  · intro h
    rw [trim, List.dropWhile_eq_nil_iff.2 h]
    rfl

/-- Trimming takes off just the blanks that were put at the ends. -/
theorem Padded.trim_eq (h : Padded core text) (hcore : ∀ c ∈ core, isBlank c = false) :
    trim text = core := by
  obtain @⟨before, after, hbefore, hafter⟩ := h
  cases core with
  | nil =>
    rw [trim_eq_nil_iff, List.append_nil]
    exact List.forall_mem_append.2 ⟨hbefore, hafter⟩
  | cons c core =>
    have hafter : ∀ c ∈ after.reverse, isBlank c := fun c hc ↦ hafter c (List.mem_reverse.1 hc)
    have hreverse : ∀ d ∈ (c :: core).reverse, isBlank d = false :=
      fun d hd ↦ hcore d (List.mem_reverse.1 hd)
    have hstart : (c :: core ++ after).dropWhile isBlank = c :: core ++ after :=
      List.dropWhile_cons_of_neg (Bool.eq_false_iff.1 (hcore c List.mem_cons_self))
    rw [trim, List.append_assoc, List.dropWhile_append_of_pos hbefore, hstart,
      List.reverse_append, List.dropWhile_append_of_pos hafter, dropWhile_eq_self hreverse,
      List.reverse_reverse]

/-! ## Among the characters -/

/-- The text is `cs` with blanks put in anywhere. -/
inductive Spaced : List Char → List Char → Prop where
  | nil : Spaced [] []
  | blank {c : Char} {cs text : List Char} (hc : isBlank c) (htext : Spaced cs text) :
    Spaced cs (c :: text)
  | keep {cs text : List Char} (c : Char) (htext : Spaced cs text) : Spaced (c :: cs) (c :: text)

theorem spaced_self (cs : List Char) : Spaced cs cs := by
  induction cs with
  | nil => exact .nil
  | cons c cs ih => exact .keep c ih

theorem removeBlanks_cons_of_pos (hc : isBlank c) :
    removeBlanks (c :: text) = removeBlanks text :=
  List.filter_cons_of_neg (by simp [hc])

theorem removeBlanks_cons_of_neg (hc : isBlank c = false) :
    removeBlanks (c :: text) = c :: removeBlanks text :=
  List.filter_cons_of_pos (by simp [hc])

/-- Removing the blanks undoes putting them in. -/
theorem Spaced.removeBlanks_eq (h : Spaced cs text) (hcs : ∀ c ∈ cs, isBlank c = false) :
    removeBlanks text = cs := by
  induction h with
  | nil => rfl
  | blank hc _ ih => rw [removeBlanks_cons_of_pos hc, ih hcs]
  | keep c _ ih =>
    obtain ⟨hc, hcs⟩ := List.forall_mem_cons.1 hcs
    rw [removeBlanks_cons_of_neg hc, ih hcs]

/-- A text is what is left of it without blanks, with blanks put in. -/
theorem spaced_removeBlanks (text : List Char) : Spaced (removeBlanks text) text := by
  induction text with
  | nil => exact .nil
  | cons c text ih =>
    cases hc : isBlank c with
    | true =>
      rw [removeBlanks_cons_of_pos hc]
      exact .blank hc ih
    | false =>
      rw [removeBlanks_cons_of_neg hc]
      exact .keep c ih

end ModemMux.Text
