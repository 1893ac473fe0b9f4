import Runbook.Files.Path
import Runbook.Log.Basic

/-!
# Machines

What the program needs of the machine it runs on: files, a clock that stands still while a command is
carried out, and somewhere to write. A machine gives these in a monad of its own, so that the same commands
run on files of the operating system and on a disk that is held in memory.
-/

/-!
## The text of a file

Files hold bytes. Read as text they are decoded, which fails as a whole if any byte does not fit, and the
two other ways to end a line are taken for a line feed.
-/

namespace Runbook.Files

/-- Takes a carriage return, with the line feed after it or alone, for a line feed. -/
def unifyLines : List Char → List Char
  | [] => []
  | '\r' :: '\n' :: cs => '\n' :: unifyLines cs
  | '\r' :: cs => '\n' :: unifyLines cs
  | c :: cs => c :: unifyLines cs

/-- The text that bytes hold. -/
def text? (bytes : ByteArray) : Option String :=
  (String.fromUTF8? bytes).map fun s => String.ofList (unifyLines s.toList)

end Runbook.Files

/-! ## What a machine does -/

namespace Runbook

/-- Why a file cannot be read or written. -/
inductive FileError where
  | notFound
  /-- A file stands where a folder is needed. -/
  | notFolder
  /-- A folder stands where a file is needed. -/
  | isFolder
  /-- A name or the whole path has too many bytes. -/
  | tooLong
  /-- A name has the character that ends a path. -/
  | unwritable
  /-- The machine says no, in its own words. -/
  | refused (words : String)
  deriving DecidableEq, Repr

/-- Something that a program writes. -/
inductive Output where
  /-- A line of a result. -/
  | line (text : String)
  /-- A line about what is wrong. -/
  | remark (text : String)
  /-- A log record. -/
  | record (record : Log.Record)

/-- The machine that a program runs on. -/
structure Machine (m : Type → Type) where
  /-- The time, in milliseconds. -/
  now : Int
  /-- The bytes of a file. -/
  read : FilePath → m (Except FileError ByteArray)
  /-- Puts a text in a file, and makes the folders that it is in. -/
  write : FilePath → String → m (Except FileError Unit)
  /-- Lets some seconds pass. -/
  sleep : Float → m Unit
  /-- Writes something. -/
  put : Output → m Unit

namespace Machine

variable {m : Type → Type} [Monad m] {ε α : Type}

/-- Writes a log record. -/
def tell (machine : Machine m) (record : Log.Record) : m Unit :=
  machine.put (.record record)

/-- Writes log records one after the other. -/
def tellAll (machine : Machine m) : List Log.Record → m Unit
  | [] => pure ()
  | record :: rest => do
    machine.tell record
    tellAll machine rest

/-- Carries out a computation that needs no machine, and writes its records. -/
def carryOut (machine : Machine m) (x : Attempt ε α) : ExceptT ε m α := do
  machine.tellAll x.outcome.records
  ExceptT.mk (pure x.outcome.value)

/-- Is there a file at a path? A machine that says no, or that cannot look up so long a name, gives no
answer. -/
def isFile (machine : Machine m) (path : FilePath) : m (Except FileError Bool) := do
  match ← machine.read path with
  | .ok _ => return .ok true
  | .error .tooLong => return .error .tooLong
  | .error (.refused words) => return .error (.refused words)
  | .error _ => return .ok false

/-- The same machine, on which records below a severity are not written. -/
def withThreshold (machine : Machine m) (severity : Nat) : Machine m :=
  { machine with
    put := fun output => match output with
      | .record record => if severity ≤ record.level.severity then machine.put output else pure ()
      | _ => machine.put output }

end Machine

end Runbook
