import Runbook.Schema.Equality

/-!
# Repeated items in lists

Whether all items of a list are different is found out by sorting: what is the same comes to lie side by
side. Values are sorted in a loose order. Numbers come before each other by what they stand for, texts by
their characters, and lists by the first items in which they differ; inside of lists truth values are the
numbers zero and one. All other values cannot be put in order, and then every pair is looked at.

The loose order has gaps that the equality of schemas does not have: a number and a truth value are alike
in it, and what is not a number has no place. A list in which such values keep equal items apart passes
for one whose items are all different. Runs that are in order, or in the opposite order, are found first,
and the other items are put in their places one by one; which items come to lie side by side depends on
that.
-/

namespace Runbook.Schema

/-! ## The loose order -/

/-- The magnitude of a number or a truth value. -/
def looseMagnitude? : Json → Option Magnitude
  | .bool b => some (.finite (if b then 1 else 0))
  | json => Magnitude.ofJson? json

mutual

/-- Are two values alike? A truth value is like the number that it stands for. -/
def alike : Json → Json → Bool
  | .null, .null => true
  | .str a, .str b => a == b
  | .list as, .list bs => alikeItems as bs
  | .record as, .record bs => as.length == bs.length && alikeFields as bs
  | a, b => match looseMagnitude? a, looseMagnitude? b with
    | some a, some b => a.same b
    | _, _ => false

/-- Are the items of two lists alike? -/
def alikeItems : List Json → List Json → Bool
  | [], [] => true
  | a :: as, b :: bs => alike a b && alikeItems as bs
  | _, _ => false

/-- Does a record have members like these? -/
def alikeFields : List (String × Json) → List (String × Json) → Bool
  | [], _ => true
  | (key, a) :: rest, bs =>
    (match Fields.get? key bs with
      | some b => alike a b
      | none => false) && alikeFields rest bs

end

mutual

/-- Does one value come before another? Values that are not of one kind have no order. -/
def precedes? : Json → Json → Option Bool
  | .str a, .str b => some (a < b)
  | .list as, .list bs => itemsPrecede? as bs
  | a, b => match looseMagnitude? a, looseMagnitude? b with
    | some a, some b => some (a.less b)
    | _, _ => none

/-- Does one list come before another? The first items that are not alike decide, and if there are none,
the lengths. -/
def itemsPrecede? : List Json → List Json → Option Bool
  | a :: as, b :: bs => if alike a b then itemsPrecede? as bs else precedes? a b
  | [], _ :: _ => some true
  | _, [] => some false

end

/-- Does one item of a list come before another? Truth values have no order among items. -/
def itemPrecedes? (a b : Json) : Option Bool :=
  match a, b with
  | .bool _, _ => none
  | _, .bool _ => none
  | a, b => precedes? a b

/-! ## Sorting -/

/-- The longest part at the front in which each item stands in a relation to the one after it, and what
follows. -/
def spanRun (related : Json → Json → Option Bool) (last : Json) :
    List Json → Option (List Json × List Json)
  | [] => some ([last], [])
  | item :: rest => do
    if ← related last item then
      let (run, rest) ← spanRun related item rest
      return (last :: run, rest)
    else return ([last], item :: rest)

/-- Splits a list after the part at its front that is in order. A part in which each item comes before the
one in front of it is turned round. -/
def splitRun : List Json → Option (List Json × List Json)
  | [] => some ([], [])
  | [item] => some ([item], [])
  | first :: second :: rest => do
    if ← itemPrecedes? second first then
      let (run, rest) ← spanRun (fun a b => itemPrecedes? b a) first (second :: rest)
      return (run.reverse, rest)
    else
      spanRun (fun a b => (itemPrecedes? b a).map (!·)) first (second :: rest)

/-- The position at which an item is put into a list: the middle of the positions that are left decides
which half is looked at next. -/
def place? (sorted : Array Json) (item : Json) : (fuel low high : Nat) → Option Nat
  | 0, low, _ => some low
  | fuel + 1, low, high =>
    if high ≤ low then some low
    else
      let middle := low + (high - low) / 2
      match sorted[middle]? with
      | none => some low
      | some other => do
        if ← itemPrecedes? item other then place? sorted item fuel low middle
        else place? sorted item fuel (middle + 1) high

/-- Puts items into a list one by one. -/
def insertAll (sorted : Array Json) : List Json → Option (Array Json)
  | [] => some sorted
  | item :: rest => do
    let position ← place? sorted item (sorted.size + 1) 0 sorted.size
    insertAll (sorted.insertIdxIfInBounds position item) rest

/-- The items of a list in the loose order, if it orders them. -/
def sort? (items : List Json) : Option (List Json) := do
  let (run, rest) ← splitRun items
  return (← insertAll run.toArray rest).toList

/-! ## Repetition -/

/-- Are two items that stand side by side the same? -/
def hasEqualNeighbours : List Json → Bool
  | a :: b :: rest => same a b || hasEqualNeighbours (b :: rest)
  | _ => false

/-- Are all items of a list different from each other? -/
def allDifferent : List Json → Bool
  | [] => true
  | json :: rest => !rest.any (same json) && allDifferent rest

/-- Does a list pass for one whose items are all different? -/
def passesForDifferent (items : List Json) : Bool :=
  match sort? items with
  | some sorted => !hasEqualNeighbours sorted
  | none => allDifferent items

end Runbook.Schema
