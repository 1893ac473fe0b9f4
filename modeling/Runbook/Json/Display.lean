import Runbook.Json.Printer
import Runbook.Text.Printable

/-!
# Showing values in messages

Messages show a value in a notation of their own: texts in single quotes, or in double quotes when they
hold a single quote and no double one; truth values as `True` and `False`, null as `None`. What cannot be
printed is shown by its code point.
-/

namespace Runbook.Json

/-- The last `count` hexadecimal digits of `n`. -/
def hexDigits : (count : Nat) → (n : Nat) → List Char
  | 0, _ => []
  | count + 1, n => hexDigits count (n / 16) ++ [Nat.digitChar (n % 16)]

/-- A character as it is shown between quotes of the given kind. -/
def displayChar (quote c : Char) : List Char :=
  if c = quote || c = '\\' then ['\\', c]
  else if c = '\n' then ['\\', 'n']
  else if c = '\r' then ['\\', 'r']
  else if c = '\t' then ['\\', 't']
  else if Text.isPrintable c then [c]
  else if c.toNat < 0x100 then '\\' :: 'x' :: hexDigits 2 c.toNat
  else if c.toNat < 0x10000 then '\\' :: 'u' :: hexDigits 4 c.toNat
  else '\\' :: 'U' :: hexDigits 8 c.toNat

/-- The quote to show a text with. -/
def displayQuote (s : String) : Char :=
  if s.contains '\'' && !s.contains '"' then '"' else '\''

/-- A text in quotes. -/
def displayText (s : String) : List Char :=
  let quote := displayQuote s
  quote :: (s.toList.flatMap (displayChar quote) ++ [quote])

mutual

/-- The characters that show a value. -/
def displayChars : Json → List Char
  | null => "None".toList
  | bool true => "True".toList
  | bool false => "False".toList
  | int n => integerText n
  | float x => (Decimal.Style.exact.write x).toList
  | str s => displayText s
  | list [] => ['[', ']']
  | list (item :: items) => '[' :: (displayChars item ++ displayItems items ++ [']'])
  | record [] => ['{', '}']
  | record ((key, item) :: fields) =>
    '{' :: (displayText key ++ ':' :: ' ' :: displayChars item ++ displayFields fields ++ ['}'])

/-- Items after the first, each after a comma. -/
def displayItems : List Json → List Char
  | [] => []
  | item :: items => ',' :: ' ' :: (displayChars item ++ displayItems items)

/-- Members after the first, each after a comma. -/
def displayFields : List (String × Json) → List Char
  | [] => []
  | (key, item) :: fields =>
    ',' :: ' ' :: (displayText key ++ ':' :: ' ' :: displayChars item ++ displayFields fields)

end

/-- The text that shows a value. -/
def display (json : Json) : String :=
  String.ofList (displayChars json)

/-- The text that shows a value; a text shows itself, without quotes. -/
def displayBare : Json → String
  | str s => s
  | json => json.display

/-!
## JSON text in ASCII alone

`Json.ascii` writes a value on one line, as `Json.line` does, and escapes every character that is not printable
ASCII by the hexadecimal digits of its code. A character beyond `U+FFFF` is written as a surrogate pair.
-/

/-- A code unit, escaped. -/
def unitEscape (n : Nat) : List Char :=
  '\\' :: 'u' :: hexDigits 4 n

/-- A character of JSON text, written in ASCII. -/
def asciiChar (c : Char) : List Char :=
  if c.toNat < 0x7F then [c]
  else if c.toNat < 0x10000 then unitEscape c.toNat
  else
    unitEscape (0xD800 + (c.toNat - 0x10000) / 0x400) ++ unitEscape (0xDC00 + (c.toNat - 0x10000) % 0x400)

/-- The text of a value on one line, in ASCII alone. -/
def ascii (json : Json) : String :=
  String.ofList ((lineChars json).flatMap asciiChar)

end Runbook.Json
