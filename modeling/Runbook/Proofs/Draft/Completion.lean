import Runbook.Draft.Completion
import Runbook.Proofs.Json.Fields
import Runbook.Proofs.Validation.Checks

/-!
# What is filled in does no harm

* `get?_ensure` — filling in a member leaves the other members alone, and the member too if its value is accepted.
* `passes_withDefaults` — a workflow that passes still passes when it has what a stored workflow has.
-/

namespace Runbook.Draft

open Validation

variable {key key' : String} {found : Option Json} {accepted : Json → Bool} {value : Json} {fields : Fields}

/-- A member keeps its value when another is filled in, or when its value is accepted. -/
theorem get?_ensure (hfound : fields.get? key = found) (h : key = key' → found.any accepted = true) :
    (ensure key' accepted value fields).get? key = found := by
  unfold ensure
  by_cases hkey : key = key'
  · rw [← hkey, hfound, if_pos (h hkey), hfound]
  · split
    · exact hfound
    · rw [Fields.get?_set_of_ne hkey, hfound]

/-- The members that a stored workflow has. -/
def defaultKeys : List String :=
  ["id", "name", "description", "dataPoints", "enabled", "createdAt", "updatedAt", "version"]

/-- A member keeps its value unless it is one of those that are filled in and says nothing. -/
theorem get?_withDefaults (stamp : Int) (h : key ∈ defaultKeys → (fields.get? key).any Json.isTruthy = true) :
    (withDefaults stamp fields).get? key = fields.get? key := by
  have htruthy : ∀ key' ∈ defaultKeys, key = key' → (fields.get? key).any Json.isTruthy = true := by
    rintro _ hmem rfl
    exact h hmem
  -- whether a workflow is enabled is filled in only where nothing is said of it
  have hthere : key = "enabled" → (fields.get? key).any (fun _ => true) = true := by
    intro hkey
    have hany := htruthy _ (by decide) hkey
    cases hget : fields.get? key with
    | none => rw [hget] at hany; cases hany
    | some value => rfl
  unfold withDefaults
  exact get?_ensure (get?_ensure (get?_ensure (get?_ensure (get?_ensure (get?_ensure (get?_ensure (get?_ensure rfl
    (htruthy "id" (by decide))) (htruthy "name" (by decide))) (htruthy "description" (by decide)))
    (htruthy "dataPoints" (by decide))) hthere) (htruthy "createdAt" (by decide))) (htruthy "updatedAt" (by decide)))
    (htruthy "version" (by decide))

/-- A text that is not blank says something. -/
theorem any_isTruthy_of_isFilledText (h : isFilledText (memberOf key fields) = true) :
    (fields.get? key).any Json.isTruthy = true := by
  cases hmember : memberOf key fields with
  | str text =>
    rw [hmember] at h
    rw [get?_of_memberOf hmember (by simp)]
    cases hempty : text.isEmpty with
    | false => simp [Json.isTruthy, hempty]
    | true =>
      rw [String.isEmpty_iff.1 hempty] at h
      cases h
  | _ => rw [hmember] at h; cases h

/-- A workflow that passes still passes when it has what a stored workflow has. -/
theorem passes_withDefaults (stamp : Int) (h : Passes (.record fields)) :
    Passes (.record (withDefaults stamp fields)) := by
  have hmember {key : String} (hkey : key ∈ defaultKeys → (fields.get? key).any Json.isTruthy = true) :
      memberOf key (withDefaults stamp fields) = memberOf key fields := by
    rw [memberOf, get?_withDefaults stamp hkey, memberOf]
  have hother {key : String} (hkey : key ∉ defaultKeys) := hmember fun hmem => absurd hmem hkey
  rw [passes_record_iff] at h ⊢
  rwa [hmember fun _ => any_isTruthy_of_isFilledText h.1, hother (by decide), hother (by decide), hother (by decide)]

end Runbook.Draft
