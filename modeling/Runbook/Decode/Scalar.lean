import Runbook.Decimal.Reading
import Runbook.Decode.Issue
import Runbook.Json.Basic
import Runbook.Text.Blank

/-!
# Decoding scalars

A scalar field takes more than its own kind of value: an integer may come as a whole floating-point
number, as a truth value or as a numeral in a text, a floating-point number likewise, and a truth value
as a number or as one of a few words. Only texts take nothing but texts.
-/

namespace Runbook.Decode

open Decoded

/-- A text. -/
def text : Json → Decoded String
  | .str s => accepted s
  | _ => fault .notText

/-- A text that is not empty. -/
def nonEmptyText (json : Json) : Decoded String :=
  (text json).andThen fun s => if s.isEmpty then fault .textTooShort else accepted s

/-- One of a list of words; `otherwise` is the fault of everything else. -/
def oneOf {α : Type} (choices : List (String × α)) (otherwise : Fault) (json : Json) : Decoded α :=
  match json.text?.bind fun s => choices.lookup s with
  | some a => accepted a
  | none => fault otherwise

/-- Takes single underscores out from between other characters; nothing if one stands elsewhere. -/
def dropUnderscores : List Char → Option (List Char)
  | [] => some []
  | '_' :: _ => none
  | [c] => some [c]
  | c :: '_' :: d :: cs => if d = '_' then none else (dropUnderscores (d :: cs)).map (c :: ·)
  | c :: cs => (dropUnderscores cs).map (c :: ·)

/-- Takes a point and zeros off the end of a numeral. -/
def dropZeroFraction (cs : List Char) : List Char :=
  match cs.dropWhile (· != '.') with
  | '.' :: '0' :: zeros => if zeros.all (· == '0') then cs.takeWhile (· != '.') else cs
  | _ => cs

/-- A digit other than zero. -/
def isLeadingDigit (c : Char) : Bool :=
  '1' ≤ c && c ≤ '9'

/-- Takes zeros and underscores off the front of a numeral, of which `last` is the one that was taken
last. One zero stays before a point and before the end. -/
def dropZerosAfter (last : Char) : List Char → Option (List Char)
  | [] => some [last]
  | c :: cs =>
    if c == '0' || c == '_' then dropZerosAfter c cs
    else if isLeadingDigit c || c == '-' then some (c :: cs)
    else if c == '.' then some (last :: c :: cs)
    else none

/-- Takes zeros off the front of a numeral. What starts with neither a digit nor a minus is none. -/
def dropLeadingZeros : List Char → Option (List Char)
  | [] => none
  | c :: cs =>
    if c == '0' then dropZerosAfter c cs
    else if isLeadingDigit c || c == '-' then some (c :: cs)
    else none

/-- A numeral without blanks and plus, leading zeros, a fraction of zeros and underscores. -/
def plainNumeral? (cs : List Char) : Option (List Char) := do
  let cs := Text.stripBy Text.isWhiteSpace cs
  let cs ← match cs with
    | '+' :: '-' :: _ => none
    | '+' :: cs => some cs
    | cs => some cs
  let (sign, cs) ← match cs with
    | '-' :: '-' :: _ => none
    | '-' :: cs => some (['-'], cs)
    | cs => some ([], cs)
  let cs := dropZeroFraction (← dropLeadingZeros cs)
  return sign ++ (dropUnderscores cs).getD cs

/-- Integers in texts of more characters are refused. -/
def maxIntegerText : Nat := 4300

/-- What a text without blanks holds. -/
inductive Numeral where
  | value (n : Int)
  | tooLong
  | unreadable

/-- Reads a minus or none, and digits without leading zeros. A numeral that is too long is refused before
what follows its digits is looked at. -/
def readNumeral (cs : List Char) : Numeral :=
  let (negative, body) := match cs with
    | '-' :: cs => (true, cs)
    | cs => (false, cs)
  let digits := body.takeWhile Decimal.isDigit
  let size := digits.length + if negative then 1 else 0
  let n : Int := ((Decimal.ofDigits digits : Nat) : Int)
  match digits with
  | [] => .unreadable
  | first :: others =>
    if first == '0' && !others.isEmpty then .unreadable
    else if maxIntegerText < size then .tooLong
    else if digits.length < body.length then .unreadable
    else .value (if negative then -n else n)

/-- An integer written in a text: by itself, or with zeros, underscores and blanks that are no part of
it. -/
def integerOfText (s : String) : Decoded Int :=
  match readNumeral s.toList with
  | .value n => accepted n
  | .tooLong => fault .integerTooLong
  | .unreadable =>
    match (plainNumeral? s.toList).map readNumeral with
    | some (.value n) => accepted n
    | some .tooLong => fault .integerTooLong
    | _ => fault .unreadableInteger

/-- An integer that came as a floating-point number. -/
def integerOfFloat (x : Float) : Decoded Int :=
  if !x.isFinite then fault .notFinite
  else
    match Decimal.toInt? x with
    | none => fault .fractionalInteger
    | some n => if n.natAbs < Nat.pow 2 63 then accepted n else fault .integerTooLong

/-- An integer. -/
def integer : Json → Decoded Int
  | .int n => accepted n
  | .bool b => accepted (if b then 1 else 0)
  | .str s => integerOfText s
  | .float x => integerOfFloat x
  | _ => fault .notInteger

/-- A floating-point number written in a text. -/
def numberOfText (s : String) : Decoded Float :=
  let cs := Text.stripBy Text.isWhiteSpace s.toList
  match Decimal.float? cs with
  | some x => accepted x
  | none =>
    match (dropUnderscores s.toList).bind Decimal.float? with
    | some x => accepted x
    | none => fault .unreadableNumber

/-- A floating-point number. -/
def number : Json → Decoded Float
  | .float x => accepted x
  | .int n => match Decimal.ofInt? n with
    | some x => accepted x
    | none => fault .notNumber
  | .bool b => accepted (if b then 1.0 else 0.0)
  | .str s => numberOfText s
  | _ => fault .notNumber

/-- The words that stand for a truth value, in any case. -/
def truthWords : List (String × Bool) :=
  [("0", false), ("off", false), ("f", false), ("false", false), ("n", false), ("no", false),
    ("1", true), ("on", true), ("t", true), ("true", true), ("y", true), ("yes", true)]

/-- A truth value that came as an integer. One that does not fit into 64 bits is not even tried. -/
def truthOfInteger (n : Int) : Decoded Bool :=
  if n = 0 then accepted false
  else if n = 1 then accepted true
  else if -Int.pow 2 63 ≤ n && n < Int.pow 2 63 then fault .unreadableTruthValue
  else fault .notTruthValue

/-- A truth value. -/
def truth : Json → Decoded Bool
  | .bool b => accepted b
  | .str s => match truthWords.lookup s.toLower with
    | some b => accepted b
    | none => fault .unreadableTruthValue
  | .int n => truthOfInteger n
  | .float x => match Decimal.toInt? x with
    | some n => if n.natAbs < Nat.pow 2 63 then truthOfInteger n else fault .notTruthValue
    | none => fault .notTruthValue
  | _ => fault .notTruthValue

/-- Null or a value. -/
def nullable {α : Type} (decode : Json → Decoded α) : Json → Decoded (Option α)
  | .null => accepted none
  | json => (decode json).map some

/-- An integer that is at least `low`. -/
def integerFrom (low : Int) (json : Json) : Decoded Int :=
  (integer json).andThen fun n => if low ≤ n then accepted n else fault .notAtLeast

/-- A number that is at least `low`; what is not a number is not. -/
def numberFrom (low : Float) (json : Json) : Decoded Float :=
  (number json).andThen fun x => if low ≤ x then accepted x else fault .notAtLeast

/-- A number above `low`; what is not a number is not. -/
def numberAbove (low : Float) (json : Json) : Decoded Float :=
  (number json).andThen fun x => if low < x then accepted x else fault .notAbove

/-- Any value at all. -/
def anything (json : Json) : Decoded Json :=
  accepted json

end Runbook.Decode
