import ModemMux.Json.Magnitude

/-!
# Records in JSON

A record is written as an object with its fields by name, or as an array of its fields in order, of
which the last may be missing. A field is given at most once.
-/

namespace ModemMux.Json

def string? : Json → Option String
  | .text s => s.string?
  | _ => none

def bool? : Json → Option Bool
  | .bool b => some b
  | _ => none

/-- The number up to `limit` that a value is. It has neither sign nor point nor power of ten. -/
def unsigned? (limit : Nat) : Json → Option Nat
  | .number n => n.nat?.filter (· ≤ limit)
  | _ => none

def most64 : Nat := UInt64.size - 1

/-- A value that may be null in place of another. -/
def nullable? {α : Type} (read : Json → Option α) : Json → Option (Option α)
  | .null => some none
  | v => (read v).map some

/-- A field of a record, with what it is when it is missing. -/
def fieldOr? {α : Type} (default : α) (read : Json → Option α) : Option Json → Option α
  | none => some default
  | some v => read v

/-- A field of a record that must not be missing. -/
def field? {α : Type} (read : Json → Option α) (v? : Option Json) : Option α := v?.bind read

/-- Puts a member of an object into the slot of its field. -/
def assign (names : List String) (admitsOthers : Bool) (slots : List (Option Json))
    (member : JsonText × Json) : Option (List (Option Json)) :=
  match member.1.string? with
  | none => none
  | some name =>
    match names.idxOf? name with
    | none => if admitsOthers then some slots else none
    | some i => if (slots.getD i none).isSome then none else some (slots.set i (some member.2))

/-- The fields of a record, in the order of their names. An object may have members that are no
fields only if the record `admitsOthers`. -/
def fields? (names : List String) (admitsOthers : Bool) : Json → Option (List (Option Json))
  | .array items =>
    if items.length ≤ names.length then
      some (items.map some ++ List.replicate (names.length - items.length) none)
    else none
  | .object members => members.foldlM (assign names admitsOthers) (names.map fun _ ↦ none)
  | _ => none

/-- Whether a value can be read in full: it is nested no deeper than `depth`, no string has a lone
surrogate and no number is too large. -/
def isReadable : Nat → Json → Bool
  | _, .null | _, .bool _ => true
  | _, .number n => n.fitsDouble
  | _, .text s => s.string?.isSome
  | 0, .array _ | 0, .object _ => false
  | depth + 1, .array items => items.all (isReadable depth)
  | depth + 1, .object members =>
    members.all fun m ↦ m.1.string?.isSome && isReadable depth m.2

end ModemMux.Json
