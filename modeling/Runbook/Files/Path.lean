import Runbook.Text.Substring

/-!
# File paths

A path is a list of names, each in the folder before it; slashes stand between them. Slashes that follow
each other count as one, and so does a point between slashes as nothing, so that every path has one written
form (`FilePath.write`). A path that starts with a slash starts at the root; two slashes, but not three, are
a root of their own.
-/

namespace Runbook

/-- A path to a file or a folder. -/
structure FilePath where
  /-- The slashes at its start: none, one, or two. -/
  slashes : Nat
  /-- The names on the way. Two points lead back to the folder around a folder. -/
  parts : List String
  deriving DecidableEq, Repr

namespace FilePath

/-- The slashes that so many slashes at the start of a path stand for. -/
def rootSlashes (count : Nat) : Nat :=
  if count ≤ 2 then count else 1

/-- Is it a name, not nothing or a single point? -/
def isName (cs : List Char) : Bool :=
  !cs.isEmpty && cs != ['.']

/-- Reads a path. -/
def ofText (text : String) : FilePath :=
  let cs := text.toList
  { slashes := rootSlashes (cs.takeWhile (· == '/')).length
    parts := ((Text.splitOn '/' cs).filter isName).map String.ofList }

/-- The written form of a path. The folder from which paths start is a point. -/
def write (p : FilePath) : String :=
  let names := "/".intercalate p.parts
  if p.slashes == 0 && p.parts.isEmpty then "."
  else String.ofList (List.replicate p.slashes '/') ++ names

/-- The path to a file of the given name in a folder. -/
def child (p : FilePath) (name : String) : FilePath :=
  { p with parts := p.parts ++ [name] }

/-- The folder that a file is in. -/
def folder (p : FilePath) : FilePath :=
  { p with parts := p.parts.dropLast }

/-- The ending of a name: what stands from its last point on. A point at the start or at the end of a name
makes no ending. -/
def ending (name : List Char) : List Char :=
  match Text.splitLast? '.' name with
  | some (stem, rest) => if stem.isEmpty || rest.isEmpty then [] else '.' :: rest
  | none => []

/-- Does the last name of the path have this ending? -/
def hasEnding (p : FilePath) (text : String) : Bool :=
  ending ((p.parts.getLast?.getD "").toList) == text.toList

end FilePath

end Runbook
