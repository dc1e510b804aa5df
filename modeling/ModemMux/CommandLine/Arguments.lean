/-!
# Arguments

A level of the command line has options, with a value each, flags without one, and words. An option
is spelled `--name value` or `--name=value`, a flag `--name`; behind a bare `--` everything is a
word. The program's own options come first and end at the word that names a command.

The first argument that does not fit decides, so what is asked for behind it goes unheard. The one
exception is a value right before the word that names a command: `Level.fits` looks at it when the
command's own level has been read.
-/

namespace ModemMux

inductive OptionShape where
  /-- No value, at most once. -/
  | flag
  /-- A value of the accepted form, at most once. -/
  | single (accepts : String → Bool)
  /-- A value of the accepted form, any number of times. -/
  | repeated (accepts : String → Bool)

structure LevelShape where
  /-- The options by name. -/
  options : List (String × OptionShape)
  /-- What the words have to be, from the first to the last that there can be. -/
  words : List (String → Bool)
  /-- Whether the first word ends the level, and what comes after it belongs to the next. -/
  endsAtWord : Bool
  /-- Whether the level can tell the program's version. -/
  tellsVersion : Bool

/-- Why a level is not read to its end. -/
inductive ArgumentStop where
  /-- The arguments are none that the program has. -/
  | misuse
  /-- Help is asked for. -/
  | help
  /-- The version is asked for. -/
  | version
  deriving DecidableEq, Repr

structure Level where
  /-- The options with their values, the first one first. -/
  values : List (String × String) := []
  flags : List String := []
  words : List String := []
  deriving DecidableEq, Repr

inductive Argument where
  /-- The bare `--`. -/
  | separator
  /-- An option or a flag, with the value behind an equals sign. -/
  | long (name : String) (value : Option String)
  /-- What starts with a single hyphen, by the letters behind it. -/
  | short (letters : List Char)
  | word (text : String)
  deriving DecidableEq, Repr

namespace Argument

/-- An option or a flag by what is spelled behind its two hyphens. -/
def ofLong (cs : List Char) : Argument :=
  let name := String.ofList (cs.takeWhile (· != '='))
  match cs.dropWhile (· != '=') with
  | [] => .long name none
  | _ :: value => .long name (some (String.ofList value))

/-- What an argument is. A single hyphen is a word. -/
def ofString (text : String) : Argument :=
  match text.toList with
  | ['-', '-'] => .separator
  | '-' :: '-' :: cs => ofLong cs
  | '-' :: c :: cs => .short (c :: cs)
  | _ => .word text

def isWord (text : String) : Bool := ofString text == .word text

end Argument

namespace Level

/-- The values that an option was given. -/
def all (name : String) (l : Level) : List String :=
  (l.values.filter (·.1 == name)).map (·.2)

def value? (name : String) (l : Level) : Option String := (l.all name).head?

def has (name : String) (l : Level) : Bool := l.flags.contains name

/-- Whether there can be one more word, and this one. -/
def takes (shape : LevelShape) (word : String) (l : Level) : Bool :=
  shape.words[l.words.length]?.any fun accepts ↦ accepts word

def addWord (shape : LevelShape) (word : String) (l : Level) : Except ArgumentStop Level :=
  if l.takes shape word then .ok { l with words := l.words ++ [word] } else .error .misuse

def addWords (shape : LevelShape) : List String → Level → Except ArgumentStop Level
  | [], l => .ok l
  | word :: words, l =>
    match l.addWord shape word with
    | .error stop => .error stop
    | .ok l => addWords shape words l

/-- Whether an option of this shape may still be given this value. -/
def admits (shape : OptionShape) (name value : String) (l : Level) : Bool :=
  match shape with
  | .flag => false
  | .single accepts => accepts value && (l.value? name).isNone
  | .repeated accepts => accepts value

/-- One more option with its value, whatever it is. -/
def putValue (name value : String) (l : Level) : Level :=
  { l with values := l.values ++ [(name, value)] }

def addValue (shape : OptionShape) (name value : String) (l : Level) : Except ArgumentStop Level :=
  if l.admits shape name value then .ok (l.putValue name value) else .error .misuse

/-- Whether the options of a level have values that they accept, and none is given too often. -/
def fits (shape : LevelShape) (l : Level) : Bool :=
  l.values.all fun (name, value) ↦
    match shape.options.lookup name with
    | none | some .flag => false
    | some (.single accepts) => accepts value && (l.all name).length == 1
    | some (.repeated accepts) => accepts value

/-- One more flag, which may not be given again. -/
def addFlag (name : String) (l : Level) : Except ArgumentStop Level :=
  if l.has name then .error .misuse else .ok { l with flags := l.flags ++ [name] }

/-- What letters behind a single hyphen ask for: the first of them decides. -/
def ofLetters (shape : LevelShape) : List Char → ArgumentStop
  | 'h' :: _ => .help
  | 'V' :: _ => if shape.tellsVersion then .version else .misuse
  | _ => .misuse

/-- What an option or flag without a value asks for, if it is none of the level's own. -/
def ofUnknown (shape : LevelShape) (name : String) : ArgumentStop :=
  if name = "help" then .help
  else if name = "version" ∧ shape.tellsVersion then .version
  else .misuse

/-- Whether the level ends in front of these arguments. -/
def endsBefore (shape : LevelShape) (arguments : List String) : Bool :=
  shape.endsAtWord && arguments.head?.any Argument.isWord

/-- Reads a level, behind what was `found` on it. What is left over belongs to the next. -/
def readFrom (shape : LevelShape) (found : Level) : List String →
    Except ArgumentStop (Level × List String)
  | [] => .ok (found, [])
  | argument :: rest =>
    match Argument.ofString argument with
    | .separator =>
      if shape.endsAtWord ∧ rest ≠ [] then .error .misuse
      else (addWords shape rest found).map (·, [])
    | .short letters => .error (ofLetters shape letters)
    | .word word =>
      if shape.endsAtWord then .ok (found, argument :: rest)
      else match found.addWord shape word with
        | .error stop => .error stop
        | .ok found => readFrom shape found rest
    | .long name value =>
      match shape.options.lookup name, value with
      | none, none => .error (ofUnknown shape name)
      | none, some _ | some .flag, some _ => .error .misuse
      | some .flag, none =>
        match found.addFlag name with
        | .error stop => .error stop
        | .ok found => readFrom shape found rest
      | some option, some value =>
        match found.addValue option name value with
        | .error stop => .error stop
        | .ok found => readFrom shape found rest
      | some option, none =>
        match rest with
        | [] => .error .misuse
        | value :: rest =>
          if !Argument.isWord value then .error .misuse
          else if endsBefore shape rest then .ok (found.putValue name value, rest)
          else match found.addValue option name value with
            | .error stop => .error stop
            | .ok found => readFrom shape found rest

def read (shape : LevelShape) (arguments : List String) :
    Except ArgumentStop (Level × List String) :=
  readFrom shape {} arguments

end Level

end ModemMux
