import Runbook.Decode.Record
import Runbook.Files.Machine
import Runbook.Json.Printer
import Runbook.Json.Reader

/-!
# Shelves

A shelf keeps records of one kind in a file, as a list in JSON. Each record has a key. A record that is put
on the shelf takes the place of the first one with its key, or else goes to the end; taking a key away takes
all records that have it.

What stands in a file need not be what was written there: a file that is missing or that holds something
else counts as empty, and an item that does not decode is passed over, both with a warning. Only bytes that
are no text, and integers of too many digits, make a file unreadable.
-/

namespace Runbook

/-- Why a shelf cannot be read or written. -/
inductive StorageError where
  /-- The bytes of the file are no text. -/
  | undecodable
  /-- The file has an integer of too many digits. -/
  | refused (error : Json.ReadError)
  | file (error : FileError)
  deriving DecidableEq, Repr

/-- How records of a kind are kept. -/
structure Shelf (α : Type) where
  /-- The name of the kind in log records. -/
  label : String
  /-- Decodes a record at a time. -/
  decode : (now : Int) → Json → Decode.Decoded α
  encode : α → Json
  key : α → String
  /-- The record that is kept when a new one takes the place of an old one. -/
  merge : (old new : α) → α

namespace Shelf

variable {α : Type}

/-! ## The records of a shelf -/

/-- The first record with a key. -/
def find? (shelf : Shelf α) (key : String) (items : List α) : Option α :=
  items.find? fun item => shelf.key item == key

/-- Puts a record on the shelf. The first component is the record that is kept. -/
def place (shelf : Shelf α) (record : α) : List α → α × List α
  | [] => (record, [record])
  | item :: rest =>
    if shelf.key item == shelf.key record then
      let kept := shelf.merge item record
      (kept, kept :: rest)
    else
      let (kept, rest) := shelf.place record rest
      (kept, item :: rest)

/-- Takes a key away; nothing if no record has it. -/
def remove? (shelf : Shelf α) (key : String) (items : List α) : Option (List α) :=
  let others := items.filter fun item => shelf.key item != key
  if others.length == items.length then none else some others

/-! ## The text of a shelf -/

/-- The text of a file that keeps the records. -/
def write (shelf : Shelf α) (items : List α) : String :=
  (Json.list (items.map shelf.encode)).pretty ++ "\n"

/-- A warning about the file of a shelf. -/
def warning (path : FilePath) (message : String) (fields : Fields := []) : Log.Record :=
  ⟨.storage, .warning, message, ("path", .str path.write) :: fields, false⟩

/-- The warning about a file that does not hold what it should. -/
def emptyWarning (shelf : Shelf α) (path : FilePath) (reason : String) : Log.Record :=
  warning path s!"{shelf.label} file {reason}; treating as empty"

/-- The warning about an item that does not decode. -/
def skipWarning (shelf : Shelf α) (path : FilePath) (position issues : Nat) : Log.Record :=
  warning path s!"Skipping invalid {shelf.label.toLower} record"
    [("index", .nat position), ("errors", .nat issues)]

/-- The records of a list of items, the first of which stands at `position`. -/
def decodeItems (shelf : Shelf α) (now : Int) (path : FilePath) (position : Nat) :
    List Json → Logged (List α)
  | [] => pure []
  | json :: rest => do
    match shelf.decode now json with
    | .accepted record =>
      let records ← decodeItems shelf now path (position + 1) rest
      return record :: records
    | .rejected issues =>
      Logged.tell (shelf.skipWarning path position issues.length)
      decodeItems shelf now path (position + 1) rest

/-- The records that a text keeps. -/
def read (shelf : Shelf α) (now : Int) (path : FilePath) (text : String) :
    Attempt StorageError (List α) := do
  match Json.read text with
  | .ok (.list items) => ExceptT.lift (shelf.decodeItems now path 0 items)
  | .ok .null => return []
  | .ok _ =>
    Attempt.tell (shelf.emptyWarning path "has unexpected shape")
    return []
  | .error error =>
    if error.isSyntax then
      Attempt.tell (shelf.emptyWarning path "is not valid JSON")
      return []
    else throw (.refused error)

/-! ## The file of a shelf -/

variable {m : Type → Type} [Monad m] (machine : Machine m) (shelf : Shelf α) (path : FilePath)

/-- The records in a file. -/
def list : ExceptT StorageError m (List α) := do
  match ← machine.read path with
  | .error .notFound => return []
  | .error .notFolder => return []
  | .error .unwritable => return []
  | .error error => throw (.file error)
  | .ok bytes =>
    match Files.text? bytes with
    | none => throw .undecodable
    | some text => machine.carryOut (shelf.read machine.now path text)

/-- Writes records to a file. -/
def store (items : List α) : ExceptT StorageError m Unit := do
  match ← machine.write path (shelf.write items) with
  | .ok _ => return ()
  | .error error => throw (.file error)

/-- The first record with a key in a file. -/
def get? (key : String) : ExceptT StorageError m (Option α) := do
  return shelf.find? key (← shelf.list machine path)

/-- Puts a record into a file, and gives the record that is kept. -/
def put (record : α) : ExceptT StorageError m α := do
  let (kept, items) := shelf.place record (← shelf.list machine path)
  shelf.store machine path items
  return kept

/-- Takes a key away from a file, and tells whether a record had it. -/
def delete (key : String) : ExceptT StorageError m Bool := do
  match shelf.remove? key (← shelf.list machine path) with
  | none => return false
  | some items =>
    shelf.store machine path items
    return true

end Shelf

end Runbook
