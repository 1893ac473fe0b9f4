import Runbook.Text.Digit
import Runbook.Text.Substring

/-!
# Ids of outputs

The output of a step has the id of the step with `_output` after it. A reference may add an underscore
and a number to that. `stepOfOutput?` finds the step from such an id.
-/

namespace Runbook

/-- What the id of an output ends in. -/
def outputMarker : String := "_output"

/-- Takes an underscore and a number off the end, if both are there. -/
def dropStamp (cs : List Char) : List Char :=
  match Text.splitLast? '_' cs with
  | some (base, tail) => if !tail.isEmpty && tail.all Text.isDecimal then base else cs
  | none => cs

/-- What stands before the ending of an output's id: `_output`, with an underscore and a number after it
or without. -/
def beforeMarker? (cs : List Char) : Option (List Char) :=
  (Text.stripSuffix? outputMarker.toList cs).or (Text.stripSuffix? outputMarker.toList (dropStamp cs))

/-- The id of the step whose output an id names. One line break after the id is no part of its ending,
and stays. -/
def stepOfOutput? (id : String) : Option String :=
  let cs := id.toList
  let found := match cs.getLast? with
    | some '\n' => (beforeMarker? cs.dropLast).map (· ++ ['\n'])
    | _ => beforeMarker? cs
  (found.filter fun step => !step.isEmpty).map String.ofList

end Runbook
