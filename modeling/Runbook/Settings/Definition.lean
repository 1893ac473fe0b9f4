import Runbook.Text.Blank
import Runbook.Text.Substring

/-!
# Files of definitions

Settings can stand in a file, one definition after the other: a name, an equals sign and a value, as in
`COLOUR=red`. The word `export` may come before the name, and a comment after a number sign is passed over.
A value is bare, which means the rest of the line, or stands between quotes, which may take up more than
one line. A line that is nothing of all this is passed over as well.

Inside a value `${NAME}` stands for the value of another variable, and `${NAME:-text}` for a text where
there is no such variable.
-/

namespace Runbook.Settings

/-- A definition. A name without an equals sign has no value. -/
structure Definition where
  name : String
  value : Option String
  deriving DecidableEq, Repr

/-! ## Lines -/

/-- A blank inside a line. -/
def isLineBlank (c : Char) : Bool :=
  Text.isBlank c && c != '\n'

/-- What follows the current line. -/
def nextLine (cs : List Char) : List Char :=
  (cs.dropWhile (· != '\n')).drop 1

/-- Reading from the front of a text. A failure keeps the text at which it happened. -/
abbrev Reading (α : Type) := Except (List Char) (α × List Char)

/-- Passes over the word that may come before a name. -/
def skipExport (cs : List Char) : List Char :=
  match Text.stripPrefix? "export".toList cs with
  | some rest => if rest.head?.any isLineBlank then rest.dropWhile isLineBlank else cs
  | none => cs

/-- Reads a name; a comment in its place means none. -/
def readName (cs : List Char) : Reading (Option String) :=
  match cs with
  | '#' :: _ => .ok (none, cs)
  | '\'' :: rest =>
    let name := rest.takeWhile (· != '\'')
    match name, rest.drop name.length with
    | _ :: _, _ :: rest => .ok (some (String.ofList name), rest)
    | _, _ => .error cs
  | _ =>
    let name := cs.takeWhile fun c => c != '=' && c != '#' && !Text.isBlank c
    if name.isEmpty then .error cs else .ok (some (String.ofList name), cs.drop name.length)

/-- Splits off what stands before the quote that closes a value. No character after a backslash closes
it. -/
def splitQuoted? (quote : Char) : List Char → Option (List Char × List Char)
  | [] => none
  | '\\' :: c :: cs => (splitQuoted? quote cs).map fun (value, rest) => ('\\' :: c :: value, rest)
  | c :: cs =>
    if c = quote then some ([], cs)
    else (splitQuoted? quote cs).map fun (value, rest) => (c :: value, rest)

/-- What a letter after a backslash stands for between double quotes. -/
def escapes : List (Char × Char) :=
  [('\\', '\\'), ('\'', '\''), ('"', '"'), ('a', '\x07'), ('b', '\x08'), ('f', '\x0c'), ('n', '\n'),
    ('r', '\r'), ('t', '\t'), ('v', '\x0b')]

/-- What a character after a backslash stands for between single quotes. -/
def plainEscapes : List (Char × Char) :=
  [('\\', '\\'), ('\'', '\'')]

/-- Replaces escapes by what they stand for. -/
def unescape (table : List (Char × Char)) : List Char → List Char
  | [] => []
  | '\\' :: c :: cs =>
    match table.lookup c with
    | some meant => meant :: unescape table cs
    | none => '\\' :: unescape table (c :: cs)
  | c :: cs => c :: unescape table cs

/-- What stands before a comment, which is a number sign after a blank. -/
def dropComment : List Char → List Char
  | [] => []
  | c :: '#' :: cs => if Text.isBlank c then [] else c :: dropComment ('#' :: cs)
  | c :: cs => c :: dropComment cs

/-- Reads a value after its equals sign and the blanks there, if there are any. -/
def readValue (afterBlank : Bool) (cs : List Char) : Reading String :=
  match cs with
  | '\'' :: rest => match splitQuoted? '\'' rest with
    | some (value, rest) => .ok (String.ofList (unescape plainEscapes value), rest)
    | none => .error cs
  | '"' :: rest => match splitQuoted? '"' rest with
    | some (value, rest) => .ok (String.ofList (unescape escapes value), rest)
    | none => .error cs
  | _ =>
    let line := cs.takeWhile (· != '\n')
    let value := if afterBlank && line.head? == some '#' then [] else dropComment line
    .ok (String.ofList (Text.dropEndWhile Text.isBlank value), cs.drop line.length)

/-- Reads an equals sign and a value, if they are there. -/
def readAssignment (cs : List Char) : Reading (Option String) :=
  match cs with
  | '=' :: rest =>
    (readValue (rest.head?.any isLineBlank) (rest.dropWhile isLineBlank)).map fun (value, rest) =>
      (some value, rest)
  | _ => .ok (none, cs)

/-- Reads the end of a line, before which there may be a comment. -/
def readEnd (cs : List Char) : Reading Unit :=
  let blank := cs.dropWhile isLineBlank
  let rest := if blank.head? == some '#' then blank.dropWhile (· != '\n') else blank
  match rest with
  | [] => .ok ((), [])
  | '\n' :: rest => .ok ((), rest)
  | _ => .error cs

/-- Reads a definition, or a line without one. -/
def readDefinition (cs : List Char) : Except (List Char) (Option Definition × List Char) := do
  let (name, cs) ← readName (skipExport cs)
  let (value, cs) ← readAssignment (cs.dropWhile isLineBlank)
  let ((), cs) ← readEnd cs
  return (name.map fun name => ⟨name, value⟩, cs)

/-- Reads definitions up to the end of a text, no more than `fuel` of them. -/
def readAll : (fuel : Nat) → List Char → List Definition
  | 0, _ => []
  | fuel + 1, cs =>
    match cs.dropWhile Text.isBlank with
    | [] => []
    | cs => match readDefinition cs with
      | .ok (definition, rest) => definition.toList ++ readAll fuel rest
      | .error rest => readAll fuel (nextLine rest)

/-- The definitions in a text; there are no more of them than characters. A byte order mark may stand at
the front. -/
def definitions (text : String) : List Definition :=
  match text.toList with
  | '\uFEFF' :: cs => readAll cs.length cs
  | cs => readAll cs.length cs

/-! ## Variables in values -/

/-- Variables with their values; a later entry for a name has its value. -/
abbrev Variables := List (String × Option String)

/-- Gives a variable a value, in its place or else at the end. -/
def Variables.set (name : String) (value : Option String) (vs : Variables) : Variables :=
  if vs.any fun entry => entry.1 == name then
    vs.map fun entry => if entry.1 == name then (name, value) else entry
  else vs ++ [(name, value)]

/-- A part of a value: a character, or the name of a variable with the text that stands in for it. -/
inductive Atom where
  | literal (c : Char)
  | named (name standIn : String)
  deriving DecidableEq, Repr

/-- Reads the variable after a dollar sign and a brace: it, and how many characters it takes. -/
def readVariable? (cs : List Char) : Option (Atom × Nat) :=
  let name := cs.takeWhile fun c => c != '}' && c != ':'
  match cs.drop name.length with
  | '}' :: _ => some (.named (String.ofList name) "", name.length + 1)
  | ':' :: '-' :: rest =>
    let standIn := rest.takeWhile (· != '}')
    if standIn.length < rest.length then
      some (.named (String.ofList name) (String.ofList standIn), name.length + 2 + standIn.length + 1)
    else none
  | _ => none

/-- The parts of a value; `skip` more characters belong to a part that is already read. -/
def readAtoms : (skip : Nat) → List Char → List Atom
  | _, [] => []
  | skip + 1, _ :: cs => readAtoms skip cs
  | 0, '$' :: '{' :: cs =>
    match readVariable? cs with
    | some (atom, taken) => atom :: readAtoms (taken + 1) ('{' :: cs)
    | none => .literal '$' :: readAtoms 0 ('{' :: cs)
  | 0, c :: cs => .literal c :: readAtoms 0 cs

/-- The text of a part. A variable that is there without a value is empty. -/
def Atom.resolve (find : String → Option (Option String)) : Atom → String
  | literal c => c.toString
  | named name standIn => match find name with
    | some value => value.getD ""
    | none => standIn

/-- A value with its variables resolved. -/
def resolve (find : String → Option (Option String)) (value : String) : String :=
  String.join ((readAtoms 0 value.toList).map (Atom.resolve find))

/-- Resolves definitions one after the other. A variable is looked for among the definitions before it, and
then in the environment. -/
def resolveAll (environment : List (String × String)) : List Definition → Variables → Variables
  | [], known => known
  | d :: rest, known =>
    let find (name : String) : Option (Option String) :=
      (known.lookup name).or ((environment.lookup name).map some)
    resolveAll environment rest (known.set d.name (d.value.map (resolve find)))

/-- The variables that a text defines. -/
def defined (environment : List (String × String)) (text : String) : Variables :=
  resolveAll environment (definitions text) []

end Runbook.Settings
