import Runbook.Pattern.Notation
import Runbook.Text.Digit
import Runbook.Text.Name.Lookup

/-!
# Single characters in patterns

What stands after a backslash is a character that has no key of its own, a class, a condition or a group.
Sets in brackets are read here as well: their elements are single characters, classes and ranges.
-/

namespace Runbook.Pattern

open Reading

/-- The class that a letter names after a backslash. -/
def class? : Char → Option CharRange
  | 'd' => some (.class .digit true)
  | 'D' => some (.class .digit false)
  | 'w' => some (.class .word true)
  | 'W' => some (.class .word false)
  | 's' => some (.class .blank true)
  | 'S' => some (.class .blank false)
  | _ => none

/-- The control character that a letter names after a backslash. -/
def control? : Char → Option Char
  | 'n' => some '\n'
  | 't' => some '\t'
  | 'r' => some '\r'
  | 'f' => some '\x0c'
  | 'v' => some '\x0b'
  | 'a' => some '\x07'
  | _ => none

/-- The condition that a letter names after a backslash. -/
def condition? (mode : Mode) : Char → Option Anchor
  | 'A' => some .start
  | 'Z' => some .stop
  | 'b' => some (.wordBoundary mode true)
  | 'B' => some (.wordBoundary mode false)
  | _ => none

/-- An octal digit. -/
def isOctal (c : Char) : Bool :=
  '0' ≤ c && c ≤ '7'

/-- The number that octal digits write. -/
def ofOctal (cs : List Char) : Nat :=
  cs.foldl (fun n c => 8 * n + (c.toNat - '0'.toNat)) 0

/-- The number that digits write. -/
def ofDigits (cs : List Char) : Nat :=
  cs.foldl (fun n c => 10 * n + (c.toNat - '0'.toNat)) 0

/-- Reads the code point that so many hexadecimal digits write. -/
def hexCode (count : Nat) : Reading Nat := do
  let digits ← takeAtMost (fun c => (Text.hexDigit? c).isSome) count
  match Text.ofHexDigits? digits with
  | some code => if digits.length = count && code < 0x110000 then return code else refuse
  | none => refuse

/-- Reads the code point of a character whose name stands in braces. -/
def namedCode : Reading Nat := do
  expect '\x7b'
  let name ← takeBefore '\x7d'
  match Text.named? name with
  | some code => return code
  | none => refuse

/-- Reads the code point that is written with a character after a backslash. Letters and digits without a
meaning are refused. -/
def escapedCode (c : Char) : Reading Nat := do
  match c with
  | 'x' => hexCode 2
  | 'u' => hexCode 4
  | 'U' => hexCode 8
  | 'N' => namedCode
  | c =>
    match control? c with
    | some meant => return meant.toNat
    | none => if isAsciiLetter c || isAsciiDigit c then refuse else return c.toNat

/-! ## Sets -/

/-- Reads an octal number that begins with a digit. Numbers above the first 256 are refused. -/
def octalCode (digit : Char) : Reading Nat := do
  let code := ofOctal (digit :: (← takeAtMost isOctal 2))
  if 0xFF < code then refuse else return code

/-- Reads an element of a set: a code point, or a class. -/
def setElement : Sign → Reading (Nat ⊕ CharRange)
  | .plain c => return .inl c.toNat
  | .dangling => refuse
  | .escaped c => do
    match class? c with
    | some range => return .inr range
    | none =>
      if c = 'b' then return .inl 8
      else if isOctal c then return .inl (← octalCode c)
      else return .inl (← escapedCode c)

/-- The range of an element that stands alone. -/
def elementRange : Nat ⊕ CharRange → CharRange
  | .inl code => .between code code
  | .inr range => range

/-- Reads the rest of a set after some ranges, the last of them first. A closing bracket that comes first
stands for itself, and so does a hyphen before the closing bracket. -/
def setTail (read : List CharRange) : (fuel : Nat) → Reading (List CharRange)
  | 0 => refuse
  | fuel + 1 => do
    let sign ← next
    if sign = .plain ']' && !read.isEmpty then return read.reverse
    let first ← setElement sign
    if !(← accept '-') then setTail (elementRange first :: read) fuel
    else
      let sign ← next
      if sign = .plain ']' then
        return (.between 0x2D 0x2D :: elementRange first :: read).reverse
      match first, ← setElement sign with
      | .inl a, .inl b => if b < a then refuse else setTail (.between a b :: read) fuel
      | _, _ => refuse

/-- Reads a set after its opening bracket. -/
def bracketed (mode : Mode) : Reading CharSet := do
  let negated ← accept '^'
  let ranges ← setTail [] ((← get).rest.length + 1)
  return ⟨ranges, !negated, mode⟩

/-! ## Outside of sets -/

/-- Reads a number after a backslash: three octal digits are a character, and one or two digits are the
number of a group. -/
def numbered (mode : Mode) (digit : Char) : Reading Pattern := do
  if digit = '0' then
    return one (.single mode (ofOctal (← takeAtMost isOctal 2)))
  match ← takeAtMost isAsciiDigit 1 with
  | [second] =>
    let third ← if isOctal digit && isOctal second then takeAtMost isOctal 1 else pure []
    match third with
    | [third] =>
      let code := ofOctal [digit, second, third]
      if 0xFF < code then refuse else return one (.single mode code)
    | _ => reference mode (ofDigits [digit, second])
  | _ => reference mode (ofDigits [digit])

/-- Reads what is written with a character after a backslash. -/
def escaped (mode : Mode) (c : Char) : Reading Pattern := do
  match condition? mode c, class? c with
  | some kind, _ => return anchor kind
  | none, some range => return one ⟨[range], true, mode⟩
  | none, none =>
    if isAsciiDigit c then numbered mode c else return one (.single mode (← escapedCode c))

end Runbook.Pattern
