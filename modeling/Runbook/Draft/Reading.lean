import Runbook.Json.Reader
import Runbook.Text.Blank
import Runbook.Text.Substring

/-!
# Reading a draft

The answer of a model is read as it is; if that fails, the record inside it is read as it is; if that
fails too, it is mended and read. An integer of too many digits is no slip and ends the attempts.
-/

/-!
## The workflow inside an answer

A model that is asked for a workflow often wraps it in explanations and in the fences of a code block.
`Draft.excerpt` takes the fences out and keeps what stands between the first opening and the last closing
brace.
-/

namespace Runbook.Draft

/-- Does a character write this letter of ASCII, in either case? The long s is a form of s. -/
def isLetter (letter c : Char) : Bool :=
  c.toLower == letter || (letter == 's' && c == '\u017F')

/-- What follows the word `json`, in any case, at the front of a text; the text itself if that word does
not stand there. -/
def dropLanguage (cs : List Char) : List Char :=
  match cs with
  | j :: s :: o :: n :: rest =>
    if isLetter 'j' j && isLetter 's' s && isLetter 'o' o && isLetter 'n' n then rest else cs
  | _ => cs

/-- What follows a fence at the front of a text: three backticks, the name of the language or none, and
the blanks after them. -/
def afterFence? (cs : List Char) : Option (List Char) :=
  (Text.stripPrefix? "```".toList cs).map fun rest => (dropLanguage rest).dropWhile Text.isBlank

/-- Takes all fences out; the first `skip` characters belong to a fence already seen. -/
def dropFencesFrom : (skip : Nat) → List Char → List Char
  | _, [] => []
  | skip + 1, _ :: cs => dropFencesFrom skip cs
  | 0, c :: cs =>
    match afterFence? (c :: cs) with
    | some rest => dropFencesFrom (cs.length - rest.length) cs
    | none => c :: dropFencesFrom 0 cs

/-- Takes all fences out. -/
def dropFences (cs : List Char) : List Char :=
  dropFencesFrom 0 cs

/-- What stands between the first opening brace and the last closing brace, both included; the whole text
if the one does not stand before the other. -/
def betweenBraces (cs : List Char) : List Char :=
  match Text.splitLast? '}' (cs.dropWhile (· != '{')) with
  | some (c :: body, _) => c :: body ++ ['}']
  | _ => cs

/-- The part of an answer that should be a JSON record. -/
def excerpt (answer : String) : String :=
  String.ofList (betweenBraces (dropFences (Text.trimChars answer.toList)))

/-!
## Mending JSON text

Three slips are common in JSON that a model writes: a comma after the last item, names of members without
quotes, and texts in single quotes. `Draft.mend` corrects each of them, in this order. The first two
corrections look at characters alone and know nothing of texts in quotes.
-/

/-- Do blanks and then a closing brace or bracket stand at the front? -/
def closesNext (cs : List Char) : Bool :=
  match cs.dropWhile Text.isBlank with
  | '}' :: _ => true
  | ']' :: _ => true
  | _ => false

/-- Takes out each comma before a closing brace or bracket. -/
def dropTrailingCommas : List Char → List Char
  | [] => []
  | c :: cs =>
    if c = ',' && closesNext cs then dropTrailingCommas cs else c :: dropTrailingCommas cs

/-- The characters that a bare name starts with. -/
def isNameStart (c : Char) : Bool :=
  ('a' ≤ c && c ≤ 'z') || ('A' ≤ c && c ≤ 'Z') || c == '_'

/-- The characters of a bare name. -/
def isNameChar (c : Char) : Bool :=
  isNameStart c || ('0' ≤ c && c ≤ '9')

/-- A bare name before a colon, and the blanks before the name. -/
structure BareName where
  blanks : List Char
  name : List Char
  /-- How many characters blanks, name and colon take together. -/
  size : Nat

/-- Reads a bare name with its colon at the front of a text. -/
def bareName? (cs : List Char) : Option BareName :=
  let blanks := cs.takeWhile Text.isBlank
  let rest := cs.dropWhile Text.isBlank
  let name := rest.takeWhile isNameChar
  match name, (rest.dropWhile isNameChar).dropWhile Text.isBlank with
  | first :: _, ':' :: after =>
    if isNameStart first then some ⟨blanks, name, cs.length - after.length⟩ else none
  | _, _ => none

/-- Puts bare names after an opening brace or a comma in quotes; the first `skip` characters belong to a
name already seen. -/
def quoteNamesFrom : (skip : Nat) → List Char → List Char
  | _, [] => []
  | skip + 1, _ :: cs => quoteNamesFrom skip cs
  | 0, c :: cs =>
    match if c = '{' || c = ',' then bareName? cs else none with
    | some found =>
      c :: (found.blanks ++ '"' :: found.name ++ ['"', ':'] ++ quoteNamesFrom found.size cs)
    | none => c :: quoteNamesFrom 0 cs

/-- Puts bare names in quotes. -/
def quoteNames (cs : List Char) : List Char :=
  quoteNamesFrom 0 cs

/-- Writes texts in single quotes with double ones. `quote` is the quote that is open. -/
def requoteFrom : (quote : Option Char) → List Char → List Char
  | _, [] => []
  | quote, '\\' :: c :: cs =>
    if quote = some '\'' && c = '\'' then c :: requoteFrom quote cs
    else '\\' :: c :: requoteFrom quote cs
  | none, c :: cs =>
    if c = '"' || c = '\'' then '"' :: requoteFrom (some c) cs else c :: requoteFrom none cs
  | some q, c :: cs =>
    if c = q then '"' :: requoteFrom none cs
    else if c = '"' then '\\' :: '"' :: requoteFrom (some q) cs
    else c :: requoteFrom (some q) cs

/-- An escape stays as it is, unless it is that of an apostrophe in single quotes. -/
theorem requoteFrom_escape {quote : Option Char} {c : Char} (h : ¬ (quote = some '\'' ∧ c = '\''))
    (cs : List Char) : requoteFrom quote ('\\' :: c :: cs) = '\\' :: c :: requoteFrom quote cs := by
  rw [requoteFrom, if_neg (by simpa using h)]

/-- Writes texts in single quotes with double ones. -/
def requote (cs : List Char) : List Char :=
  requoteFrom none cs

/-- Corrects the slips of a text. -/
def mend (text : String) : String :=
  String.ofList (requote (quoteNames (dropTrailingCommas text.toList)))

/-! ## The attempts -/

/-- A value read from a draft. -/
structure Reading where
  value : Json
  /-- Was it necessary to mend the text? -/
  mended : Bool

/-- Why nothing can be read from a draft. -/
inductive ReadError where
  /-- The mended text is no JSON. -/
  | malformed (error : Json.ReadError)
  /-- A number has too many digits. -/
  | refused (error : Json.ReadError)
  deriving DecidableEq, Repr

/-- The words for a draft that cannot be read. -/
def ReadError.message : ReadError → String
  | malformed error => s!"Failed to parse JSON: {error.message}"
  | refused error => error.message

/-- Reads a text, and goes on to `next` if it is malformed. -/
def readOr (text : String) (mended : Bool) (next : Json.ReadError → Except ReadError Reading) :
    Except ReadError Reading :=
  match Json.read text with
  | .ok value => .ok ⟨value, mended⟩
  | .error error => if error.isSyntax then next error else .error (.refused error)

/-- Reads a draft. -/
def read (answer : String) : Except ReadError Reading :=
  readOr answer false fun _ =>
    readOr (excerpt answer) false fun _ =>
      readOr (mend (excerpt answer)) true fun error => .error (.malformed error)

end Runbook.Draft
