import Runbook.Decimal.Reading
import Runbook.Json.Basic
import Runbook.Text.Digit

/-!
# Reading JSON text

`Json.read` reads a whole text. The grammar is that of JSON with three more words, `NaN`, `Infinity` and
`-Infinity`. A number with a point or an exponent is a floating-point number and any other an integer. Of
two members with one name the later value stays, in the place of the first.

A failure names a problem and the place where it lies. While reading, the place is the text that was still
to be read there; `ReadError` turns it into line, column and position.
-/

namespace Runbook.Json

/-- What is wrong with a text. -/
inductive Problem where
  | expectingValue
  | expectingName
  | expectingColon
  | expectingComma
  | unterminatedString
  | controlCharacter
  | badEscape
  | badUnicodeEscape
  | extraData
  | byteOrderMark
  /-- An integer of more digits than are read; `digits` is their number. -/
  | integerTooLong (digits : Nat)
  deriving DecidableEq, Repr

/-- The words for a problem, as they stand before the place. -/
def Problem.message : Problem → String
  | expectingValue => "Expecting value"
  | expectingName => "Expecting property name enclosed in double quotes"
  | expectingColon => "Expecting ':' delimiter"
  | expectingComma => "Expecting ',' delimiter"
  | unterminatedString => "Unterminated string starting at"
  | controlCharacter => "Invalid control character at"
  | badEscape => "Invalid \\escape"
  | badUnicodeEscape => "Invalid \\uXXXX escape"
  | extraData => "Extra data"
  | byteOrderMark => "Unexpected UTF-8 BOM (decode using utf-8-sig)"
  | integerTooLong digits =>
    s!"Exceeds the limit (4300 digits) for integer string conversion: value has {digits} digits; " ++
      "use sys.set_int_max_str_digits() to increase the limit"

/-- A problem at the place where `rest` was still to be read. -/
structure Failure where
  problem : Problem
  rest : List Char

/-- The outcome of reading from the front of a text: a value and what follows it. -/
abbrev Reading (α : Type) := Except Failure (α × List Char)

/-- The characters that may stand between the parts of a text. -/
def isSpace (c : Char) : Bool :=
  c == ' ' || c == '\t' || c == '\n' || c == '\r'

/-- `cs` without the space at its front. -/
def skipSpace (cs : List Char) : List Char :=
  cs.dropWhile isSpace

/-- The character of a code unit; half of a surrogate pair has none and becomes `U+FFFD`. -/
def ofCodeUnit (n : Nat) : Char :=
  if 0xD800 ≤ n && n ≤ 0xDFFF then '\uFFFD' else Char.ofNat n

/-- Reads the hexadecimal digits of an escape, which must not be the last characters of the text.
`cs` starts at its `u`. -/
def codeUnit (cs : List Char) : Except Failure Nat :=
  match Text.ofHexDigits? ((cs.drop 1).take 4) with
  | some n => if 5 < cs.length then .ok n else .error ⟨.badUnicodeEscape, cs⟩
  | none => .error ⟨.badUnicodeEscape, cs⟩

/-- Reads the escape whose `u` stands at the front of `cs`: its character, and how many characters it
takes. Two escapes that make a surrogate pair are one character. -/
def unicodeEscape (cs : List Char) : Except Failure (Char × Nat) := do
  let unit ← codeUnit cs
  match cs.drop 5 with
  | '\\' :: 'u' :: more =>
    if 0xD800 ≤ unit && unit ≤ 0xDBFF && 4 < more.length then
      let second ← codeUnit ('u' :: more)
      if 0xDC00 ≤ second && second ≤ 0xDFFF then
        return (Char.ofNat (0x10000 + (unit - 0xD800) * 0x400 + (second - 0xDC00)), 11)
      return (ofCodeUnit unit, 5)
    return (ofCodeUnit unit, 5)
  | _ => return (ofCodeUnit unit, 5)

/-- Reads what follows a backslash: the character meant, and how many characters name it. `whole` starts
at the backslash and `start` at the quote that opened the string. -/
def escape (start whole : List Char) : List Char → Except Failure (Char × Nat)
  | [] => .error ⟨.unterminatedString, start⟩
  | '"' :: _ => .ok ('"', 1)
  | '\\' :: _ => .ok ('\\', 1)
  | '/' :: _ => .ok ('/', 1)
  | 'b' :: _ => .ok ('\x08', 1)
  | 'f' :: _ => .ok ('\x0c', 1)
  | 'n' :: _ => .ok ('\n', 1)
  | 'r' :: _ => .ok ('\r', 1)
  | 't' :: _ => .ok ('\t', 1)
  | 'u' :: cs => unicodeEscape ('u' :: cs)
  | _ => .error ⟨.badEscape, whole⟩

/-- Reads a string up to its closing quote, passing over `skip` characters first. `start` is where the
string was opened. -/
def stringTail (start : List Char) : (skip : Nat) → List Char → Reading (List Char)
  | _, [] => .error ⟨.unterminatedString, start⟩
  | skip + 1, _ :: cs => stringTail start skip cs
  | 0, c :: cs =>
    if c = '"' then .ok ([], cs)
    else if c = '\\' then
      match escape start (c :: cs) cs with
      | .error e => .error e
      | .ok (meant, taken) => (stringTail start taken cs).map fun (text, rest) => (meant :: text, rest)
    else if c.toNat < 0x20 then .error ⟨.controlCharacter, c :: cs⟩
    else (stringTail start 0 cs).map fun (text, rest) => (c :: text, rest)

/-- Reads the string whose opening quote stands before `cs`. -/
def string (cs : List Char) : Reading String :=
  (stringTail ('"' :: cs) 0 cs).map fun (text, rest) => (String.ofList text, rest)

/-- Integers of more digits are refused. -/
def maxDigits : Nat := 4300

/-- Splits the digits of a whole number off the front; a zero stands alone. -/
def wholeDigits : List Char → List Char × List Char
  | '0' :: cs => (['0'], cs)
  | cs => (cs.takeWhile Decimal.isDigit, cs.dropWhile Decimal.isDigit)

/-- Splits a point and the digits after it off the front, if there are both. -/
def fractionDigits : List Char → List Char × List Char
  | '.' :: cs =>
    if (cs.takeWhile Decimal.isDigit).isEmpty then ([], '.' :: cs)
    else (cs.takeWhile Decimal.isDigit, cs.dropWhile Decimal.isDigit)
  | cs => ([], cs)

/-- Splits an exponent with at least one digit off the front. -/
def exponentPart : List Char → Option Int × List Char
  | c :: cs =>
    let (negative, ds) := Decimal.splitSign cs
    let digits := ds.takeWhile Decimal.isDigit
    if (c == 'e' || c == 'E') && !digits.isEmpty then
      let e : Int := ((Decimal.ofDigits digits : Nat) : Int)
      (some (if negative then -e else e), ds.dropWhile Decimal.isDigit)
    else (none, c :: cs)
  | [] => (none, [])

/-- Reads a number. -/
def number (cs : List Char) : Reading Json :=
  let (negative, body) := match cs with
    | '-' :: ds => (true, ds)
    | ds => (false, ds)
  let (whole, afterWhole) := wholeDigits body
  if whole.isEmpty then .error ⟨.expectingValue, cs⟩
  else
    let (fraction, afterFraction) := fractionDigits afterWhole
    let (exponent, rest) := exponentPart afterFraction
    if fraction.isEmpty && exponent.isNone then
      if maxDigits < whole.length then .error ⟨.integerTooLong whole.length, cs⟩
      else
        let n : Int := ((Decimal.ofDigits whole : Nat) : Int)
        .ok (.int (if negative then -n else n), rest)
    else
      let e := exponent.getD 0 - fraction.length
      .ok (.float (Decimal.ofScientific negative (Decimal.ofDigits (whole ++ fraction)) e), rest)

mutual

/-- Reads a value. The fuel bounds the number of values, items and members on the way to any part. -/
def value : (fuel : Nat) → List Char → Reading Json
  | 0, cs => .error ⟨.expectingValue, cs⟩
  | fuel + 1, cs =>
    match cs with
    | '"' :: rest => (string rest).map fun (s, rest) => (.str s, rest)
    | '{' :: rest =>
      match skipSpace rest with
      | '}' :: rest => .ok (.record [], rest)
      | rest => (members fuel rest).map fun (pairs, rest) => (.record (Fields.ofPairs pairs), rest)
    | '[' :: rest =>
      match skipSpace rest with
      | ']' :: rest => .ok (.list [], rest)
      | rest => (elements fuel rest).map fun (items, rest) => (.list items, rest)
    | 'n' :: 'u' :: 'l' :: 'l' :: rest => .ok (.null, rest)
    | 't' :: 'r' :: 'u' :: 'e' :: rest => .ok (.bool true, rest)
    | 'f' :: 'a' :: 'l' :: 's' :: 'e' :: rest => .ok (.bool false, rest)
    | 'N' :: 'a' :: 'N' :: rest => .ok (.float (0.0 / 0.0), rest)
    | 'I' :: 'n' :: 'f' :: 'i' :: 'n' :: 'i' :: 't' :: 'y' :: rest => .ok (.float (1.0 / 0.0), rest)
    | '-' :: 'I' :: 'n' :: 'f' :: 'i' :: 'n' :: 'i' :: 't' :: 'y' :: rest =>
      .ok (.float (-1.0 / 0.0), rest)
    | _ => number cs

/-- Reads the items of a list, at least one, and the closing bracket. -/
def elements : (fuel : Nat) → List Char → Reading (List Json)
  | 0, cs => .error ⟨.expectingValue, cs⟩
  | fuel + 1, cs =>
    match value fuel cs with
    | .error e => .error e
    | .ok (item, rest) =>
      match skipSpace rest with
      | ']' :: rest => .ok ([item], rest)
      | ',' :: rest =>
        (elements fuel (skipSpace rest)).map fun (items, rest) => (item :: items, rest)
      | rest => .error ⟨.expectingComma, rest⟩

/-- Reads the members of a record, at least one, and the closing brace. -/
def members : (fuel : Nat) → List Char → Reading (List (String × Json))
  | 0, cs => .error ⟨.expectingName, cs⟩
  | fuel + 1, cs =>
    match cs with
    | '"' :: rest =>
      match string rest with
      | .error e => .error e
      | .ok (name, rest) =>
        match skipSpace rest with
        | ':' :: rest =>
          match value fuel (skipSpace rest) with
          | .error e => .error e
          | .ok (item, rest) =>
            match skipSpace rest with
            | '}' :: rest => .ok ([(name, item)], rest)
            | ',' :: rest =>
              (members fuel (skipSpace rest)).map fun (pairs, rest) => ((name, item) :: pairs, rest)
            | rest => .error ⟨.expectingComma, rest⟩
        | rest => .error ⟨.expectingColon, rest⟩
    | _ => .error ⟨.expectingName, cs⟩

end

/-- A problem with a text and the place where it lies. Lines and columns count from one, positions from
zero; all count characters. -/
structure ReadError where
  problem : Problem
  line : Nat
  column : Nat
  position : Nat
  deriving DecidableEq, Repr

/-- The place in `text` at which `failure.rest` was still to be read. -/
def ReadError.locate (text : List Char) (failure : Failure) : ReadError :=
  let before := text.take (text.length - failure.rest.length)
  { problem := failure.problem
    line := before.count '\n' + 1
    column := (before.reverse.takeWhile (· != '\n')).length + 1
    position := before.length }

/-- The words for a problem and its place. -/
def ReadError.message (e : ReadError) : String :=
  match e.problem with
  | .integerTooLong _ => e.problem.message
  | _ => s!"{e.problem.message}: line {e.line} column {e.column} (char {e.position})"

/-- Is the text malformed? An integer that is too long is well formed and refused all the same. -/
def ReadError.isSyntax (e : ReadError) : Bool :=
  match e.problem with
  | .integerTooLong _ => false
  | _ => true

/-- Reads the characters of a whole text. An opening bracket or brace takes two units of fuel, one for the
value and one for its first part, and a comma takes one; so twice the length is enough. -/
def readChars (cs : List Char) : Except Failure Json :=
  match cs with
  | '\uFEFF' :: _ => .error ⟨.byteOrderMark, cs⟩
  | _ => do
    let (json, rest) ← value (2 * cs.length + 2) (skipSpace cs)
    match skipSpace rest with
    | [] => return json
    | rest => .error ⟨.extraData, rest⟩

/-- Reads a whole text. -/
def read (text : String) : Except ReadError Json :=
  (readChars text.toList).mapError (ReadError.locate text.toList)

end Runbook.Json
