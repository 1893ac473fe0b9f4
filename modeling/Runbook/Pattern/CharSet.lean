import Runbook.Text.Blank
import Runbook.Text.Case
import Runbook.Text.Digit
import Runbook.Text.Word

/-!
# Sets of characters

A set of characters is put together from ranges of code points and from classes with names of their own.
A `Mode` says whether the case of letters counts and whether the classes reach beyond ASCII.

`CharSet.contains_negate` says that a set and its complement share no character and miss none.
-/

namespace Runbook.Pattern

/-- How characters are compared and classified. -/
structure Mode where
  ignoreCase : Bool := false
  asciiOnly : Bool := false
  deriving DecidableEq, Repr

/-- A letter of ASCII, in capitals or small. -/
def isAsciiLetter (c : Char) : Bool :=
  ('a' ≤ c && c ≤ 'z') || ('A' ≤ c && c ≤ 'Z')

/-- A digit of ASCII. -/
def isAsciiDigit (c : Char) : Bool :=
  '0' ≤ c && c ≤ '9'

namespace Mode

/-- The code point that stands for a character when texts are compared. -/
def key (mode : Mode) (c : Char) : Nat :=
  if !mode.ignoreCase || (mode.asciiOnly && !isAsciiLetter c) then c.toNat else Text.lowerCode c.toNat

/-- The code points that a character counts as. -/
def variants (mode : Mode) (c : Char) : List Nat :=
  if !mode.ignoreCase then [c.toNat]
  else if mode.asciiOnly then
    if isAsciiLetter c then [Text.lowerCode c.toNat, Text.lowerCode c.toNat - 0x20] else [c.toNat]
  else Text.caseVariants c.toNat

end Mode

/-- A class of characters with a name of its own. -/
inductive CharClass where
  | digit
  | word
  | blank
  deriving DecidableEq, Repr

/-- Is a character of this class? -/
def CharClass.contains (mode : Mode) : CharClass → Char → Bool
  | digit, c => if mode.asciiOnly then isAsciiDigit c else Text.isDecimal c
  | word, c =>
    if mode.asciiOnly then isAsciiLetter c || isAsciiDigit c || c == '_' else Text.isWordChar c
  | blank, c =>
    if mode.asciiOnly then c == ' ' || (9 ≤ c.toNat && c.toNat ≤ 13) else Text.isBlank c

/-- What a set of characters is put together from. -/
inductive CharRange where
  /-- All code points from the first to the last. -/
  | between (first last : Nat)
  /-- A class, or all characters outside of it. -/
  | class (name : CharClass) (inside : Bool)
  deriving DecidableEq, Repr

/-- Is a character in the range, if it counts as each of some code points? -/
def CharRange.contains (mode : Mode) (c : Char) (codes : List Nat) : CharRange → Bool
  | between first last => codes.any fun code => first ≤ code && code ≤ last
  | .class name inside => name.contains mode c == inside

/-- A set of characters: all in one of the ranges, or all in none of them. -/
structure CharSet where
  ranges : List CharRange
  inside : Bool := true
  mode : Mode := {}
  deriving DecidableEq, Repr

namespace CharSet

/-- Is a character in the set? -/
def contains (s : CharSet) (c : Char) : Bool :=
  let codes := s.mode.variants c
  (s.ranges.any fun r => r.contains s.mode c codes) == s.inside

/-- The set of one code point. -/
def single (mode : Mode) (code : Nat) : CharSet :=
  ⟨[.between code code], true, mode⟩

/-- The set of all characters. -/
def every : CharSet :=
  ⟨[], false, {}⟩

/-- The set of all characters but the line break. -/
def inLine : CharSet :=
  ⟨[.between 10 10], false, {}⟩

/-- The characters outside of a set. -/
def negate (s : CharSet) : CharSet :=
  { s with inside := !s.inside }

theorem contains_negate (s : CharSet) (c : Char) : s.negate.contains c = !s.contains c := by
  obtain ⟨ranges, inside, mode⟩ := s
  simp only [contains, negate]
  cases inside <;> cases ranges.any fun r => r.contains mode c (mode.variants c) <;> rfl

end CharSet

end Runbook.Pattern
