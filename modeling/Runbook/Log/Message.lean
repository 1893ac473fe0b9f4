import Runbook.Decimal.Places
import Runbook.Decimal.Reading
import Runbook.Json.Display

/-!
# Messages with values in them

A log message can have directives, which a percent sign opens, in the places of values that are given
beside it: `%s` for a value as text, `%d` for an integer, `%.2f` for a number with two digits after the
point, and so on. A message is read into pieces, characters and directives, and the pieces are then filled
in from left to right; what is wrong first decides the outcome.

The values stand in a list and are used in turn, or in a record and are used by name, as in `%(step)s`.
-/

namespace Runbook.Log.Message

/-! ## Directives -/

/-- The name by which a directive chooses its value. -/
inductive Key where
  | absent
  | named (name : String)
  | unclosed
  deriving DecidableEq, Repr

/-- A width or a precision; a star leaves it to a value of its own. -/
inductive Amount where
  | absent
  | fixed (n : Nat)
  | star
  deriving DecidableEq, Repr

/-- The flags of a directive. -/
structure Flags where
  /-- Fill up on the right. -/
  left : Bool
  /-- Write a plus sign. -/
  plus : Bool
  /-- Leave a blank in the place of a plus sign. -/
  blank : Bool
  /-- Mark the base of an integer, and keep the point of a number. -/
  marked : Bool
  /-- Fill up a number with zeros. -/
  zero : Bool
  deriving DecidableEq, Repr

/-- A directive. Its letter says what becomes of the value, and is missing only at the end of a message
that breaks off. -/
structure Directive where
  key : Key
  flags : Flags
  width : Amount
  precision : Amount
  letter : Option Char
  deriving DecidableEq, Repr

/-- A piece of a message. -/
inductive Piece where
  | literal (c : Char)
  | directive (d : Directive)
  deriving DecidableEq, Repr

/-- Splits a name off at the parenthesis that closes it; `depth` more are open inside the name. -/
def splitName? : (depth : Nat) → List Char → Option (List Char × List Char)
  | _, [] => none
  | 0, ')' :: cs => some ([], cs)
  | depth + 1, ')' :: cs => (splitName? depth cs).map fun (name, rest) => (')' :: name, rest)
  | depth, '(' :: cs => (splitName? (depth + 1) cs).map fun (name, rest) => ('(' :: name, rest)
  | depth, c :: cs => (splitName? depth cs).map fun (name, rest) => (c :: name, rest)

/-- Reads a name in parentheses. -/
def readKey : List Char → Key × List Char
  | '(' :: cs => match splitName? 0 cs with
    | some (name, rest) => (.named (String.ofList name), rest)
    | none => (.unclosed, [])
  | cs => (.absent, cs)

/-- Reads a number or a star. -/
def readAmount : List Char → Amount × List Char
  | '*' :: cs => (.star, cs)
  | cs =>
    let digits := cs.takeWhile Decimal.isDigit
    (if digits.isEmpty then .absent else .fixed (Decimal.ofDigits digits), cs.drop digits.length)

/-- Reads a precision: a point, and a number or a star; a point alone means none. -/
def readPrecision : List Char → Amount × List Char
  | '.' :: cs => match readAmount cs with
    | (.absent, rest) => (.fixed 0, rest)
    | read => read
  | cs => (.absent, cs)

/-- Is the character a flag? -/
def isFlag (c : Char) : Bool :=
  c == '-' || c == '+' || c == ' ' || c == '#' || c == '0'

/-- The flags among some characters. -/
def Flags.ofChars (cs : List Char) : Flags :=
  { left := cs.contains '-', plus := cs.contains '+', blank := cs.contains ' '
    marked := cs.contains '#', zero := cs.contains '0' }

/-- Passes over a letter that states the size of an integer, which has no effect. -/
def skipSize : List Char → List Char
  | c :: cs => if c == 'h' || c == 'l' || c == 'L' then cs else c :: cs
  | [] => []

/-- Reads a directive after its percent sign. -/
def readDirective (cs : List Char) : Directive × List Char :=
  let (key, cs) := readKey cs
  let flags := Flags.ofChars (cs.takeWhile isFlag)
  let (width, cs) := readAmount (cs.dropWhile isFlag)
  let (precision, cs) := readPrecision cs
  let cs := skipSize cs
  (⟨key, flags, width, precision, cs.head?⟩, cs.drop 1)

/-- Reads the pieces of a message, no more than `fuel` of them. Two percent signs stand for one. -/
def readPieces : (fuel : Nat) → List Char → List Piece
  | 0, _ => []
  | _, [] => []
  | fuel + 1, '%' :: '%' :: cs => .literal '%' :: readPieces fuel cs
  | fuel + 1, '%' :: cs =>
    let (d, rest) := readDirective cs
    .directive d :: readPieces fuel rest
  | fuel + 1, c :: cs => .literal c :: readPieces fuel cs

/-- The pieces of a message; there are no more of them than characters. -/
def pieces (text : String) : List Piece :=
  readPieces text.length text.toList

/-! ## Values -/

/-- What can be wrong with a message and its values. -/
inductive Problem where
  /-- More directives than values. -/
  | tooFewValues
  /-- More values than directives. -/
  | tooManyValues
  /-- A name, but no record to find it in. -/
  | notNamed
  /-- A name whose parenthesis is not closed. -/
  | unclosedName
  /-- A name that the record does not have. -/
  | unknownName (name : String)
  /-- A directive that breaks off. -/
  | brokenOff
  /-- A letter that no directive has. -/
  | unknownLetter (letter : Char)
  /-- A star whose value is no integer. -/
  | amountNotInteger
  /-- A written width or precision out of all bounds. -/
  | amountTooLarge
  /-- A star whose value is out of all bounds. -/
  | starTooLarge
  /-- A value that is no number, where the directive needs one. -/
  | notNumber
  /-- A value that is not one character. -/
  | notCharacter
  /-- A code point that no character has. -/
  | notCodePoint
  /-- What is not a number, in the place of an integer. -/
  | undefinedInteger
  /-- An infinity in the place of an integer. -/
  | infiniteInteger
  /-- An integer beyond the floating-point numbers. -/
  | numberTooLarge
  deriving DecidableEq, Repr

/-- The values for a message. -/
inductive Arguments where
  | listed (values : List Json)
  | named (fields : Fields)

/-- The values given beside a message. A single record that is not empty gives its members. -/
def Arguments.ofValues : List Json → Arguments
  | [.record (field :: fields)] => .named (field :: fields)
  | values => .listed values

/-- The values that are still to be used. Beside a record, the whole record is one, until a name chooses
a member of it. -/
structure Supply where
  fields : Option Fields
  pending : List Json

/-- The supply at the start of a message. -/
def Supply.start : Arguments → Supply
  | .listed values => ⟨none, values⟩
  | .named fields => ⟨some fields, [.record fields]⟩

/-- The next value. -/
def Supply.next (s : Supply) : Except Problem (Json × Supply) :=
  match s.pending with
  | [] => .error .tooFewValues
  | value :: rest => .ok (value, { s with pending := rest })

/-- Chooses a member by its name. -/
def Supply.choose (s : Supply) : Key → Except Problem Supply
  | .absent => .ok s
  | .unclosed => if s.fields.isSome then .error .unclosedName else .error .notNamed
  | .named name => match s.fields with
    | none => .error .notNamed
    | some fields => match fields.get? name with
      | none => .error (.unknownName name)
      | some value => .ok { s with pending := [value] }

/-- Finds the number for a width or a precision, which is below `2 ^ bits`. -/
def Amount.resolve (bits : Nat) (s : Supply) : Amount → Except Problem (Option Int × Supply)
  | absent => .ok (none, s)
  | fixed n => if n < Nat.pow 2 bits then .ok (some n, s) else .error .amountTooLarge
  | star => do
    let (value, s) ← s.next
    let n ← match value with
      | .int n => .ok n
      | .bool b => .ok (if b then 1 else 0)
      | _ => .error .amountNotInteger
    if n.natAbs < Nat.pow 2 bits then .ok (some n, s) else .error .starTooLarge

/-! ## Filling in -/

/-- A value as it is written, before it is filled up to a width. -/
structure Written where
  sign : List Char := []
  /-- The mark of a base. -/
  mark : List Char := []
  text : List Char
  /-- Is it a number, which takes zeros between sign and digits? -/
  numeric : Bool := false

/-- Fills up to `width` characters. -/
def Written.fill (flags : Flags) (width : Nat) (w : Written) : List Char :=
  let whole := w.sign ++ w.mark ++ w.text
  let missing := width - whole.length
  if flags.left then whole ++ List.replicate missing ' '
  else if flags.zero && w.numeric then w.sign ++ w.mark ++ List.replicate missing '0' ++ w.text
  else List.replicate missing ' ' ++ whole

/-- The sign of a number. -/
def Flags.sign (flags : Flags) (negative : Bool) : List Char :=
  if negative then ['-'] else if flags.plus then ['+'] else if flags.blank then [' '] else []

/-- The text of a value in which every character outside ASCII is escaped. -/
def asciiText (value : Json) : List Char :=
  (Json.displayChars value).flatMap fun c =>
    if c.toNat < 0x80 then [c]
    else if c.toNat < 0x100 then '\\' :: 'x' :: Json.hexDigits 2 c.toNat
    else if c.toNat < 0x10000 then '\\' :: 'u' :: Json.hexDigits 4 c.toNat
    else '\\' :: 'U' :: Json.hexDigits 8 c.toNat

/-- A text, no longer than the precision. -/
def clipped (precision : Option Nat) (cs : List Char) : Written :=
  ⟨[], [], precision.elim cs cs.take, false⟩

/-- The integer that a value is. -/
def integerOf : Json → Except Problem Int
  | .int n => .ok n
  | .bool b => .ok (if b then 1 else 0)
  | _ => .error .notNumber

/-- The integer that a number is once its fraction is left out. -/
def truncated : Json → Except Problem Int
  | .float x => match Decimal.Value.ofFloat x with
    | .nan => .error .undefinedInteger
    | .infinite _ => .error .infiniteInteger
    | .finite negative mantissa exponent =>
      let magnitude : Nat := mantissa * Nat.pow 2 exponent.toNat / Nat.pow 2 (-exponent).toNat
      .ok (if negative then -magnitude else magnitude)
  | value => integerOf value

/-- An integer in a base, with at least as many digits as the precision. -/
def integer (flags : Flags) (precision : Option Nat) (base : Nat) (mark : List Char) (n : Int) :
    Written :=
  let digits := Nat.toDigits base n.natAbs
  { sign := flags.sign (decide (n < 0))
    mark := if flags.marked then mark else []
    text := List.replicate (precision.getD 0 - digits.length) '0' ++ digits
    numeric := true }

/-- Writes letters as capitals. -/
def Written.upper (w : Written) : Written :=
  { w with mark := w.mark.map Char.toUpper, text := w.text.map Char.toUpper }

/-- A number in a layout, with six digits unless the precision says otherwise. -/
def number (flags : Flags) (precision : Option Nat) (layout : Decimal.Layout) (value : Json) :
    Except Problem Written := do
  let x ← match value with
    | .float x => .ok x
    | value => do
      let n ← integerOf value
      match Decimal.ofInt? n with
      | some x => .ok x
      | none => .error .numberTooLarge
  match Decimal.Value.ofFloat x with
  | .nan => return ⟨flags.sign false, [], "nan".toList, true⟩
  | .infinite negative => return ⟨flags.sign negative, [], "inf".toList, true⟩
  | .finite negative mantissa exponent =>
    return ⟨flags.sign negative, [], layout.write flags.marked (precision.getD 6) mantissa exponent, true⟩

/-- One character, given as a text or by its code point. -/
def character : Json → Except Problem Written
  | .str s => match s.toList with
    | [c] => .ok ⟨[], [], [c], false⟩
    | _ => .error .notCharacter
  | value => match integerOf value with
    | .ok n => if 0 ≤ n && n < 0x110000 then .ok ⟨[], [], [Char.ofNat n.toNat], false⟩ else .error .notCodePoint
    | .error _ => .error .notCharacter

/-- Writes a value as the letter of a directive says. -/
def write (flags : Flags) (precision : Option Nat) (letter : Char) (value : Json) :
    Except Problem Written :=
  match letter with
  | 's' => .ok (clipped precision value.displayBare.toList)
  | 'r' => .ok (clipped precision value.display.toList)
  | 'a' => .ok (clipped precision (asciiText value))
  | 'd' | 'i' | 'u' => (truncated value).map (integer flags precision 10 [])
  | 'o' => (integerOf value).map (integer flags precision 8 ['0', 'o'])
  | 'x' => (integerOf value).map (integer flags precision 16 ['0', 'x'])
  | 'X' => (integerOf value).map fun n => (integer flags precision 16 ['0', 'x'] n).upper
  | 'f' => number flags precision .fixed value
  | 'F' => (number flags precision .fixed value).map Written.upper
  | 'e' => number flags precision .scientific value
  | 'E' => (number flags precision .scientific value).map Written.upper
  | 'g' => number flags precision .general value
  | 'G' => (number flags precision .general value).map Written.upper
  | 'c' => character value
  | letter => .error (.unknownLetter letter)

/-- Fills in a directive. A negative width that a star takes means to fill up on the right. -/
def Directive.fill (d : Directive) (s : Supply) : Except Problem (List Char × Supply) := do
  let s ← s.choose d.key
  let (width, s) ← d.width.resolve 63 s
  let (precision, s) ← d.precision.resolve 31 s
  let letter ← match d.letter with
    | some c => .ok c
    | none => .error .brokenOff
  let (value, s) ← s.next
  let written ← write d.flags (precision.map Int.toNat) letter value
  let width := width.getD 0
  let text := written.fill { d.flags with left := d.flags.left || width < 0 } width.natAbs
  if s.fields.isSome && !s.pending.isEmpty then .error .tooManyValues else .ok (text, s)

/-- Fills in the pieces of a message. Every value of a list must be used. -/
def fillPieces (s : Supply) : List Piece → Except Problem (List Char)
  | [] => if s.fields.isNone && !s.pending.isEmpty then .error .tooManyValues else .ok []
  | .literal c :: rest => do return c :: (← fillPieces s rest)
  | .directive d :: rest => do
    let (text, s) ← d.fill s
    return text ++ (← fillPieces s rest)

/-- The message with its values filled in. Without any values it stands as it is. -/
def format (text : String) (values : List Json) : Except Problem String :=
  if values.isEmpty then .ok text
  else (fillPieces (.start (.ofValues values)) (pieces text)).map String.ofList

end Runbook.Log.Message
