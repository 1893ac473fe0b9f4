import Runbook.Decimal.Notation
import Runbook.Json.Basic

/-!
# Writing JSON text

A value is written on one line, with a space after each comma and colon, or indented by two blanks for
each level, one item or member to a line. Only quotes, backslashes and control characters are escaped in
strings; all other characters stand for themselves.
-/

namespace Runbook.Json

/-- The hexadecimal digits of a code point below 256. -/
def hexPair (n : Nat) : List Char :=
  [Nat.digitChar (n / 16), Nat.digitChar (n % 16)]

/-- A character as it stands in a string. -/
def escapeChar (c : Char) : List Char :=
  if c = '"' then ['\\', '"']
  else if c = '\\' then ['\\', '\\']
  else if c = '\n' then ['\\', 'n']
  else if c = '\r' then ['\\', 'r']
  else if c = '\t' then ['\\', 't']
  else if c = '\x0c' then ['\\', 'f']
  else if c = '\x08' then ['\\', 'b']
  else if c.toNat < 0x20 then '\\' :: 'u' :: '0' :: '0' :: hexPair c.toNat
  else [c]

/-- A text between quotes. -/
def quoted (s : String) : List Char :=
  '"' :: (s.toList.flatMap escapeChar ++ ['"'])

/-- An integer in decimal digits. -/
def integerText (n : Int) : List Char :=
  if n < 0 then '-' :: Decimal.digitText n.natAbs else Decimal.digitText n.natAbs

/-- A floating-point number: the fewest digits that read back, or a word. -/
def floatText (x : Float) : List Char :=
  match Decimal.Value.ofFloat x with
  | .nan => "NaN".toList
  | .infinite negative => if negative then "-Infinity".toList else "Infinity".toList
  | .finite .. => (Decimal.Style.exact.write x).toList

/-- A value that has no parts. -/
def scalarText : Json → List Char
  | null => "null".toList
  | bool true => "true".toList
  | bool false => "false".toList
  | int n => integerText n
  | float x => floatText x
  | str s => quoted s
  | list _ => []
  | record _ => []

mutual

/-- The characters of a value on one line. -/
def lineChars : Json → List Char
  | list [] => ['[', ']']
  | list (item :: items) => '[' :: (lineChars item ++ lineItems items ++ [']'])
  | record [] => ['{', '}']
  | record ((key, item) :: fields) =>
    '{' :: (quoted key ++ ':' :: ' ' :: lineChars item ++ lineFields fields ++ ['}'])
  | json => scalarText json

/-- Items after the first, each after a comma. -/
def lineItems : List Json → List Char
  | [] => []
  | item :: items => ',' :: ' ' :: (lineChars item ++ lineItems items)

/-- Members after the first, each after a comma. -/
def lineFields : List (String × Json) → List Char
  | [] => []
  | (key, item) :: fields =>
    ',' :: ' ' :: (quoted key ++ ':' :: ' ' :: lineChars item ++ lineFields fields)

end

/-- A new line, indented for a level. -/
def newline (level : Nat) : List Char :=
  '\n' :: List.replicate (2 * level) ' '

mutual

/-- The characters of a value, its parts on lines of their own; `level` counts the levels around it. -/
def prettyChars (level : Nat) : Json → List Char
  | list [] => ['[', ']']
  | list (item :: items) =>
    '[' :: (newline (level + 1) ++ prettyChars (level + 1) item ++ prettyItems (level + 1) items ++
      newline level ++ [']'])
  | record [] => ['{', '}']
  | record ((key, item) :: fields) =>
    '{' :: (newline (level + 1) ++ quoted key ++ ':' :: ' ' :: prettyChars (level + 1) item ++
      prettyFields (level + 1) fields ++ newline level ++ ['}'])
  | json => scalarText json

/-- Items after the first, each after a comma on a line of its own. -/
def prettyItems (level : Nat) : List Json → List Char
  | [] => []
  | item :: items => ',' :: (newline level ++ prettyChars level item ++ prettyItems level items)

/-- Members after the first, each after a comma on a line of its own. -/
def prettyFields (level : Nat) : List (String × Json) → List Char
  | [] => []
  | (key, item) :: fields =>
    ',' :: (newline level ++ quoted key ++ ':' :: ' ' :: prettyChars level item ++
      prettyFields level fields)

end

/-- The text of a value on one line. -/
def line (json : Json) : String :=
  String.ofList (lineChars json)

/-- The text of a value, indented. -/
def pretty (json : Json) : String :=
  String.ofList (prettyChars 0 json)

end Runbook.Json
