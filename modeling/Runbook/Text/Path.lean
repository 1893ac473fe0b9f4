/-!
# Paths

A path leads from a workflow to a value inside it: names of members after points, positions in lists in
brackets, as in `steps[0].input.text`.
-/

namespace Runbook.Path

/-- The path to the member `key` of the value at `path`. -/
def member (path key : String) : String :=
  if path.isEmpty then key else s!"{path}.{key}"

/-- The path to the item at a position of the list at `path`. -/
def item (path : String) (position : Nat) : String :=
  s!"{path}[{position}]"

end Runbook.Path
