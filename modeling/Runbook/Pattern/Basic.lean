import Runbook.Pattern.CharSet

/-!
# Patterns

A pattern describes texts by what may stand one after the other. Its parts are sets of characters,
conditions on a place in the text, sequences, alternatives and repetitions; groups remember what they
described, and other parts of the pattern can refer to that.

`Pattern.width` bounds the number of characters that a pattern describes. Looking back from a place is
possible only by a number of characters that is known beforehand.
-/

namespace Runbook

namespace Pattern

/-- A condition on a place in a text. -/
inductive Anchor where
  | start
  /-- The start, or after a line break. -/
  | lineStart
  | stop
  /-- The end, or before a line break that ends the text. -/
  | lastLineEnd
  /-- The end, or before a line break. -/
  | lineEnd
  /-- Between a word character and another character or an end of the text, or not. -/
  | wordBoundary (mode : Mode) (inside : Bool)
  deriving DecidableEq, Repr

/-- Which number of repetitions is tried first. -/
inductive Preference where
  /-- As many as possible; then fewer. -/
  | most
  /-- As few as possible; then more. -/
  | fewest
  /-- As many as possible, and no other number. -/
  | mostOnly
  deriving DecidableEq, Repr

/-- How often something is repeated. -/
structure Bounds where
  low : Nat
  high : Option Nat
  deriving DecidableEq, Repr

end Pattern

open Pattern in
/-- A pattern. -/
inductive Pattern where
  | empty
  | one (set : CharSet)
  | anchor (kind : Anchor)
  | then (first second : Pattern)
  | or (left right : Pattern)
  | repeat (bounds : Bounds) (preference : Preference) (body : Pattern)
  /-- What the body describes is remembered under a number. -/
  | group (number : Nat) (body : Pattern)
  /-- What a group described last, once more. -/
  | again (number : Nat) (mode : Mode)
  /-- One thing if a group has described something, and another if not. -/
  | whether (number : Nat) (present absent : Pattern)
  /-- What follows is described, or is not. -/
  | ahead (body : Pattern) (holds : Bool)
  /-- The characters before the place, so many, are described, or are not. -/
  | behind (width : Nat) (body : Pattern) (holds : Bool)
  /-- Only the first way in which the body describes something counts. -/
  | committed (body : Pattern)
  deriving Repr

namespace Pattern

/-- How many characters something has: at least, and at most if there is a bound. -/
structure Width where
  least : Nat
  most : Option Nat
  deriving DecidableEq, Repr

namespace Width

/-- A width that is known. -/
def exactly (n : Nat) : Width :=
  ⟨n, some n⟩

/-- The width of two things one after the other. -/
def plus (a b : Width) : Width :=
  ⟨a.least + b.least, match a.most, b.most with
    | some m, some n => some (m + n)
    | _, _ => none⟩

/-- The width of one of two things. -/
def either (a b : Width) : Width :=
  ⟨min a.least b.least, match a.most, b.most with
    | some m, some n => some (max m n)
    | _, _ => none⟩

/-- The width of repetitions. What is empty stays empty however often it is repeated. -/
def times (bounds : Bounds) (w : Width) : Width :=
  ⟨bounds.low * w.least, match bounds.high, w.most with
    | some m, some n => some (m * n)
    | none, some 0 => some 0
    | _, _ => none⟩

/-- The number of characters, if it is known. -/
def fixed? (w : Width) : Option Nat :=
  if w.most = some w.least then some w.least else none

@[simp] theorem fixed?_exactly (n : Nat) : (exactly n).fixed? = some n := by
  simp [fixed?, exactly]

end Width

/-- The width of what a pattern describes, if the widths of the groups to which it refers are known. -/
def width (groups : Nat → Width) : Pattern → Width
  | empty => .exactly 0
  | one _ => .exactly 1
  | anchor _ => .exactly 0
  | .then first second => (width groups first).plus (width groups second)
  | .or left right => (width groups left).either (width groups right)
  | .repeat bounds _ body => (width groups body).times bounds
  | group _ body => width groups body
  | again number _ => groups number
  | whether _ present absent => (width groups present).either (width groups absent)
  | ahead _ _ => .exactly 0
  | behind _ _ _ => .exactly 0
  | committed body => width groups body

/-- Some patterns one after the other. -/
def sequence : List Pattern → Pattern
  | [] => empty
  | [p] => p
  | p :: ps => .then p (sequence ps)

end Pattern

end Runbook
