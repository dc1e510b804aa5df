import ModemMux.Channel.Transport
import ModemMux.Error
import ModemMux.Session

/-!
# The session table

The table holds the live sessions in the order in which they were added, at most `capacity` of
them, and beside them the counters of the root device. A session that has been removed stays known
to those who hold it: `Registry.current` shows what has become of it.
-/

namespace ModemMux

/-- The sessions of one root device. -/
structure Registry where
  capacity : Nat
  /-- The live sessions, the oldest first. -/
  sessions : List Session
  /-- The removed sessions as they were left, the last one first. -/
  retired : List Session
  /-- The number of sessions that were ever added. -/
  issued : Nat
  /-- The counters of the root device. -/
  totals : Counters
  deriving DecidableEq, Repr

/-- A session as it was found in the table. -/
structure Entry where
  /-- Its place in the table. -/
  index : Nat
  session : Session
  deriving DecidableEq, Repr

namespace Registry

def empty (capacity : Nat) : Registry where
  capacity := capacity
  sessions := []
  retired := []
  issued := 0
  totals := .zero

variable (r : Registry)

def length : Nat := r.sessions.length

/-- The tags of the live sessions in table order. -/
def tags : List Tag := r.sessions.map (·.tag)

def find? (tag : Tag) : Option Session := r.sessions.find? (·.tag == tag)

/-- The live session with a tag, and its place. -/
def lookup (tag : Tag) : Option Entry :=
  (r.find? tag).map fun s ↦ ⟨r.sessions.findIdx (·.tag == tag), s⟩

/-- What has become of a session that was found earlier. -/
def current (e : Entry) : Session :=
  ((r.sessions ++ r.retired).find? (·.serial == e.session.serial)).getD e.session

def isFlowControlled (tag : Tag) : Bool := (r.find? tag).any (·.isFlowControlled)

def modify (tag : Tag) (f : Session → Session) : Registry :=
  { r with sessions := r.sessions.map fun s ↦ if s.tag == tag then f s else s }

@[simp] theorem capacity_modify (tag : Tag) (f : Session → Session) :
    (r.modify tag f).capacity = r.capacity := rfl
@[simp] theorem retired_modify (tag : Tag) (f : Session → Session) :
    (r.modify tag f).retired = r.retired := rfl
@[simp] theorem issued_modify (tag : Tag) (f : Session → Session) :
    (r.modify tag f).issued = r.issued := rfl
@[simp] theorem totals_modify (tag : Tag) (f : Session → Session) :
    (r.modify tag f).totals = r.totals := rfl
@[simp] theorem length_modify (tag : Tag) (f : Session → Session) :
    (r.modify tag f).length = r.length := by
  simp [length, modify]

/-- Which tags are live does not change with a session that keeps its tag. -/
theorem tags_modify (tag : Tag) {f : Session → Session} (hf : ∀ s, (f s).tag = s.tag) :
    (r.modify tag f).tags = r.tags := by
  simp only [tags, modify, List.map_map, List.map_inj_left, Function.comp_apply]
  intro s _
  split <;> simp [hf]

/-! ## Counting -/

/-- Counts one packet for the session of a tag and for the root device. -/
def count (tag : Tag) (bytes : UInt64) (direction : Direction) : Except MuxError Unit × Registry :=
  match r.find? tag with
  | none => (.error (.unknownSession tag), r)
  | some _ =>
    let counted := r.modify tag (·.count bytes direction)
    (.ok (), { counted with totals := r.totals.record bytes direction })

/-! ## Flow control -/

/-- Asks the session of a tag to stop or to restart. -/
def request (tag : Tag) (engage : Bool) : Except MuxError Unit × Registry :=
  match r.find? tag with
  | none => (.error (.unknownSession tag), r)
  | some s =>
    if s.state = .unbound then (.error (.unknownSession tag), r)
    else (.ok (), r.modify tag (·.request engage))

/-- Obeys a signal of the channel layer, or of anyone else who knows a session by its id. -/
def heed (signal : Signal) : Except MuxError Unit × Registry :=
  match Tag.ofSession? signal.session with
  | none => (.error (.invalidSessionId signal.session), r)
  | some tag => r.request tag signal.engage

def isStopped (id : SessionId) : Bool := (Tag.ofSession? id).any r.isFlowControlled

/-- Obeys signals one after the other, and says of each whether there was a session to obey. -/
def heedAll : List Signal → Registry → List (Signal × Bool) × Registry
  | [], r => ([], r)
  | signal :: signals, r =>
    match r.heed signal with
    | (answer, r) =>
      match heedAll signals r with
      | (notices, r) => ((signal, answer.toBool) :: notices, r)

end Registry

end ModemMux
