import ModemMux.Json.Lexeme

/-!
# Reading JSON

The reader takes one lexeme at a time and keeps the arrays and objects that stand open, so a
document may be nested to any depth. `Json.parse?` reads a document with nothing behind it.
-/

namespace ModemMux.Json

/-- An array or an object that stands open. The items and members are in reverse. -/
inductive Open where
  | array (items : List Json)
  /-- An object; `key` is the name of the member whose value comes next. -/
  | object (members : List (JsonText × Json)) (key : JsonText)

inductive Expected where
  /-- A value. -/
  | value
  /-- A value, or the end of the array that was opened just now. -/
  | firstItem
  /-- A name, or the end of the object that was opened just now. -/
  | firstKey
  /-- The name of another member, behind the members so far. -/
  | nextKey (members : List (JsonText × Json))
  /-- The colon behind a name. -/
  | colon (members : List (JsonText × Json)) (key : JsonText)
  /-- Another item of this array, or its end. -/
  | afterItem (items : List Json)
  /-- Another member of this object, or its end. -/
  | afterMember (members : List (JsonText × Json))
  /-- Nothing: the document is complete. -/
  | nothing (document : Json)

/-- The reader between two lexemes. -/
structure Reader where
  /-- What stands open, the innermost first. -/
  stack : List Open
  expected : Expected

namespace Reader

/-- The reader after a complete value. -/
def put (v : Json) : List Open → Reader
  | [] => ⟨[], .nothing v⟩
  | .array items :: stack => ⟨stack, .afterItem (v :: items)⟩
  | .object members key :: stack => ⟨stack, .afterMember ((key, v) :: members)⟩

/-- The reader after the first lexeme of a value. -/
def begin (stack : List Open) : Lexeme → Option Reader
  | .null => some (put .null stack)
  | .bool b => some (put (.bool b) stack)
  | .number n => some (put (.number n) stack)
  | .text s => some (put (.text s) stack)
  | .openArray => some ⟨stack, .firstItem⟩
  | .openObject => some ⟨stack, .firstKey⟩
  | .closeArray | .closeObject | .colon | .comma => none

def step (r : Reader) (lexeme : Lexeme) : Option Reader :=
  match r.expected, lexeme with
  | .value, _ => begin r.stack lexeme
  | .firstItem, .closeArray => some (put (.array []) r.stack)
  | .firstItem, _ => begin (.array [] :: r.stack) lexeme
  | .firstKey, .closeObject => some (put (.object []) r.stack)
  | .firstKey, .text key => some { r with expected := .colon [] key }
  | .nextKey members, .text key => some { r with expected := .colon members key }
  | .colon members key, .colon => some ⟨.object members key :: r.stack, .value⟩
  | .afterItem items, .comma => some ⟨.array items :: r.stack, .value⟩
  | .afterItem items, .closeArray => some (put (.array items.reverse) r.stack)
  | .afterMember members, .comma => some { r with expected := .nextKey members }
  | .afterMember members, .closeObject => some (put (.object members.reverse) r.stack)
  | _, _ => none

def initial : Reader := ⟨[], .value⟩

def document? (r : Reader) : Option Json :=
  match r.expected with
  | .nothing document => some document
  | _ => none

end Reader

def parse? (text : String) : Option Json :=
  match Lexeme.ofChars? text.toList with
  | none => none
  | some lexemes => (lexemes.foldlM Reader.step Reader.initial).bind Reader.document?

end ModemMux.Json
