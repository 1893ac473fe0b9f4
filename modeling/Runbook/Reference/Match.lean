import Runbook.Text.Substring

/-!
# The step that a reference means

A reference to a step that does not exist often differs from an existing id only at the end. Ids are
compared segment by segment, a segment being what stands between underscores: two ids are compatible when
the segments of one begin those of the other. Ids that share two segments or more are strong matches, and
the shortest of them is meant; an id that shares only the first segment is meant if it is the only one.
-/

namespace Runbook

/-- The outcome of looking for the step that a reference means. -/
structure StepMatch where
  candidate : Option String
  candidates : List String := []
  deriving DecidableEq, Repr

namespace StepMatch

/-- Are there several steps that could be meant, and none that is? -/
def ambiguous (m : StepMatch) : Bool :=
  m.candidate.isNone && 1 < m.candidates.length

/-- The segments of an id. -/
def segments (id : String) : List (List Char) :=
  Text.splitOn '_' id.toList

/-- Do the segments of one id begin those of the other? -/
def compatible (a b : String) : Bool :=
  (segments a).isPrefixOf (segments b) || (segments b).isPrefixOf (segments a)

/-- Do both ids have two segments or more? -/
def isStrong (a b : String) : Bool :=
  2 ≤ (segments a).length && 2 ≤ (segments b).length

/-- Shorter ids come first, and ids of one length in the order of their characters. -/
def before (a b : String) : Bool :=
  a.length < b.length || (a.length == b.length && !decide (b < a))

/-- Looks for the step that `id` means among the steps that there are. -/
def find (id : String) (steps : List String) : StepMatch :=
  let similar := (steps.eraseDups.filter fun s => s != id && compatible id s).mergeSort before
  let strong := similar.filter (isStrong id)
  match strong, similar with
  | s :: _, _ => ⟨some s, strong⟩
  | [], [s] => ⟨some s, [s]⟩
  | [], _ => ⟨none, similar⟩

end StepMatch

end Runbook
