import Runbook.Files.Machine

/-!
# Disks in memory

A disk holds files under their places. A folder is there if a file is in it, or if it was made for one; the
working folder, the folders around it and the root are always there. A place is the way to a file from the
working folder, or from the root, with every step back taken. Names and paths have a greatest length: a path
that is longer is never looked up, and a name that is longer not even in a folder that is there.
-/

namespace Runbook

/-- The names on the way from the working folder; steps out of it come first. A way from the root starts
with a slash. -/
abbrev Location := List String

/-- The folder around a place. -/
def Location.around (p : Location) : Location :=
  if p == ["/"] then p
  else if p.all (· == "..") then p ++ [".."]
  else p.dropLast

/-- Files and folders in memory. -/
structure Disk where
  files : List (Location × ByteArray) := []
  /-- The folders that were made. -/
  folders : List Location := []

namespace Disk

/-- The bytes of the file at a place. -/
def file? (d : Disk) (p : Location) : Option ByteArray :=
  d.files.lookup p

/-- Is there a folder at a place? -/
def isFolder (d : Disk) (p : Location) : Bool :=
  p == ["/"] || p.all (· == "..") || d.folders.contains p ||
    d.files.any fun (q, _) => p.isPrefixOf q && p != q

/-- The longest name of a file or a folder, in bytes. -/
def longestName : Nat := 255

/-- The longest path, in bytes. -/
def longestPath : Nat := 4095

/-- Where a name leads in a folder, whether or not there is something. -/
def enter (p : Location) (name : String) : Except FileError Location :=
  if longestName < name.utf8ByteSize then .error .tooLong
  else .ok (if name == ".." then p.around else p ++ [name])

/-- Goes on from a place along names; all but the last must be folders. -/
def follow (d : Disk) : Location → List String → Except FileError Location
  | p, [] => .ok p
  | p, name :: rest =>
    if d.isFolder p then do d.follow (← enter p name) rest
    else if (d.file? p).isSome then .error .notFolder
    else .error .notFound

/-- Refuses a path that no disk takes, whatever is on it. -/
def checkPath (path : FilePath) : Except FileError Unit :=
  let text := path.write
  if text.toList.contains '\x00' then .error .unwritable
  else if longestPath < text.utf8ByteSize then .error .tooLong
  else .ok ()

/-- Where a path starts. -/
def start (path : FilePath) : Location :=
  if path.slashes == 0 then [] else ["/"]

/-- The place of a path. -/
def place (d : Disk) (path : FilePath) : Except FileError Location :=
  d.follow (start path) path.parts

/-- The bytes of the file at a path. -/
def read (d : Disk) (path : FilePath) : Except FileError ByteArray := do
  checkPath path
  let p ← d.place path
  match d.file? p with
  | some bytes => .ok bytes
  | none => .error (if d.isFolder p then .isFolder else .notFound)

/-- Makes the folders along names that are not there yet. -/
def makeFolders (d : Disk) : Location → List String → Except FileError Disk
  | _, [] => .ok d
  | p, name :: rest => do
    let next ← enter p name
    if d.isFolder next then d.makeFolders next rest
    else if (d.file? next).isSome then .error .notFolder
    else makeFolders { d with folders := next :: d.folders } next rest

/-- Gives the file at a place its bytes. -/
def setFile (d : Disk) (p : Location) (bytes : ByteArray) : Disk :=
  if (d.file? p).isSome then
    { d with files := d.files.map fun entry => if entry.1 == p then (p, bytes) else entry }
  else { d with files := d.files ++ [(p, bytes)] }

/-- Puts a text in the file at a path, and makes the folders that it is in. -/
def write (d : Disk) (path : FilePath) (text : String) : Except FileError Disk := do
  checkPath path
  let d ← d.makeFolders (start path) path.folder.parts
  let p ← d.place path
  if d.isFolder p then .error .isFolder else .ok (d.setFile p text.toUTF8)

end Disk

/-- A disk and what was written beside it. -/
structure Workplace where
  disk : Disk
  outputs : List Output := []

/-- The machine that works on a disk in memory. It does not wait. -/
def Machine.onDisk (now : Int) : Machine (StateM Workplace) where
  now := now
  read path := do return (← get).disk.read path
  write path text := do
    let workplace ← get
    match workplace.disk.write path text with
    | .ok disk =>
      set { workplace with disk := disk }
      return .ok ()
    | .error error => return .error error
  sleep _ := pure ()
  put output := modify fun workplace => { workplace with outputs := workplace.outputs ++ [output] }

end Runbook
