import Runbook.Pattern.Basic

/-!
# Where patterns match

Matching is a search. From a place in a text a pattern leads on to other places, one after the other, and
at each of them the search goes on with what is to follow: the first place at which that succeeds decides.
A place remembers what the groups have described on the way to it.

Repetition goes on from a place only if the last round has moved on, so it ends with the text.

`Pattern.occursIn` says whether a pattern describes any part of a text.
-/

namespace Runbook.Pattern

/-- A place in a text, and what the groups have described on the way there: at which positions each of
them was last entered and left. -/
structure Place where
  position : Nat
  entered : List (Nat × Nat) := []
  left : List (Nat × Nat) := []
  deriving DecidableEq, Repr

namespace Place

/-- The place so many characters further on. -/
def advance (p : Place) (count : Nat) : Place :=
  { p with position := p.position + count }

/-- Puts a position in the place of the one that is kept for a group. -/
def record (number position : Nat) (kept : List (Nat × Nat)) : List (Nat × Nat) :=
  (number, position) :: kept.filter fun entry => entry.1 != number

/-- Enters a group. -/
def enter (p : Place) (number : Nat) : Place :=
  { p with entered := record number p.position p.entered }

/-- Leaves a group. -/
def leave (p : Place) (number : Nat) : Place :=
  { p with left := record number p.position p.left }

/-- The positions between which a group has described something. -/
def span? (p : Place) (number : Nat) : Option (Nat × Nat) :=
  match p.entered.lookup number, p.left.lookup number with
  | some start, some stop => if start ≤ stop then some (start, stop) else none
  | _, _ => none

end Place

/-- Does the condition hold at a position of a text? -/
def Anchor.holdsAt (text : Array Char) (position : Nat) : Anchor → Bool
  | start => position == 0
  | lineStart => position == 0 || text[position - 1]? == some '\n'
  | stop => position == text.size
  | lastLineEnd =>
    position == text.size || (position + 1 == text.size && text[position]? == some '\n')
  | lineEnd => position == text.size || text[position]? == some '\n'
  | wordBoundary mode inside =>
    -- A text without characters has no place of either kind.
    let isWord (c : Option Char) := c.any (CharClass.word.contains mode)
    let before := if position = 0 then none else text[position - 1]?
    !text.isEmpty && (isWord before != isWord text[position]?) == inside

/-- Does a text have the same characters at two positions, so many of them? -/
def repeats (text : Array Char) (mode : Mode) (from_ position : Nat) : (count : Nat) → Bool
  | 0 => true
  | count + 1 =>
    match text[from_]?, text[position]? with
    | some a, some b => mode.key a == mode.key b && repeats text mode (from_ + 1) (position + 1) count
    | _, _ => false

/-- What is to follow at a place: it gives the place where all ends, if it succeeds. -/
abbrev Goal := Place → Option Place

/-- A search from a place on: it leads to a place at which a goal succeeds. -/
abbrev Search := Place → Goal → Option Place

namespace Search

/-- So many rounds, and then something else. -/
def rounds (round after : Search) : (count : Nat) → Search
  | 0, p, goal => after p goal
  | count + 1, p, goal => round p fun q => rounds round after count q goal

/-- As many more rounds as possible, or fewer. No further round is tried after one that started at the
same position, which is `last`. -/
def most (round : Search) : (limit : Nat) → (last : Option Nat) → Search
  | 0, _, p, goal => goal p
  | limit + 1, last, p, goal =>
    let more :=
      if last = some p.position then none
      else round p fun q => most round limit (some p.position) q goal
    match more with
    | some found => some found
    | none => goal p

/-- As few more rounds as possible, or more. -/
def fewest (round : Search) : (limit : Nat) → (last : Option Nat) → Search
  | 0, _, p, goal => goal p
  | limit + 1, last, p, goal =>
    match goal p with
    | some found => some found
    | none =>
      if last = some p.position then none
      else round p fun q => fewest round limit (some p.position) q goal

/-- The place after as many rounds as are possible, each taken in the first way that there is. -/
def exhaust (round : Search) : (limit : Nat) → (last : Option Nat) → Place → Place
  | 0, _, p => p
  | limit + 1, last, p =>
    if last = some p.position then p
    else match round p some with
      | some q => exhaust round limit (some p.position) q
      | none => p

/-- The search for repetitions. More rounds than `size` characters allow are not tried. -/
def repeated (round : Search) (bounds : Bounds) (preference : Preference) (size : Nat) : Search :=
  let limit := match bounds.high with
    | some high => min (high - bounds.low) (size + 2)
    | none => size + 2
  match preference with
  | .most => rounds round (most round limit none) bounds.low
  | .fewest => rounds round (fewest round limit none) bounds.low
  | .mostOnly => fun p goal =>
    match rounds (fun p goal => (round p some).bind goal) (fun p goal => goal p) bounds.low p some with
    | some q => goal (exhaust round limit none q)
    | none => none

end Search

/-- Goes on from a place if something is found from another one, or if it is not found. -/
def judge (holds : Bool) (p : Place) (found : Option Place) (goal : Goal) : Option Place :=
  match found, holds with
  | some q, true => goal { q with position := p.position }
  | none, false => goal p
  | _, _ => none

/-- The search of a pattern in a text. -/
def search (text : Array Char) : Pattern → Search
  | empty, p, goal => goal p
  | one set, p, goal =>
    match text[p.position]? with
    | some c => if set.contains c then goal (p.advance 1) else none
    | none => none
  | anchor kind, p, goal => if kind.holdsAt text p.position then goal p else none
  | .then first second, p, goal => search text first p fun q => search text second q goal
  | .or left right, p, goal =>
    match search text left p goal with
    | some found => some found
    | none => search text right p goal
  | .repeat bounds preference body, p, goal =>
    Search.repeated (search text body) bounds preference (text.size - p.position) p goal
  | group number body, p, goal => search text body (p.enter number) fun q => goal (q.leave number)
  | again number mode, p, goal =>
    match p.span? number with
    | some (start, stop) =>
      if repeats text mode start p.position (stop - start) then goal (p.advance (stop - start))
      else none
    | none => none
  | whether number present absent, p, goal =>
    if (p.span? number).isSome then search text present p goal else search text absent p goal
  | ahead body holds, p, goal => judge holds p (search text body p some) goal
  | behind width body holds, p, goal =>
    if p.position < width then if holds then none else goal p
    else judge holds p (search text body { p with position := p.position - width } some) goal
  | committed body, p, goal => (search text body p some).bind goal

/-- Does the pattern describe a part of the text? -/
def occursIn (pattern : Pattern) (text : String) : Bool :=
  let chars := text.toList.toArray
  (List.range (chars.size + 1)).any fun position => (search chars pattern ⟨position, [], []⟩ some).isSome

end Runbook.Pattern
