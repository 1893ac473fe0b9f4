import Runbook.Proofs.Reference.Output
import Runbook.Reference.Dependency

/-!
# What the analysis of references establishes

* `of_mem_references` — a use of an output names its step in one of the two spellings.
* `exists_target_of_unreported` — a use that is not reported is one of the output of a task step that stands
  before the step that uses it.
-/

namespace Runbook.Dependency

theorem isIdent_of_mem_references {text : String} {t : Token} (h : t ∈ Template.references text) :
    Token.isIdent t.dataPointId = true := by
  obtain ⟨t', ht', rfl⟩ := List.mem_map.1 h
  have hid := Token.isIdent_of_isWellFormed (Template.isWellFormed_of_mem ht')
  split
  · exact hid
  · exact hid

theorem of_mem_references {position : Nat} {v : StepView} {r : Reference}
    (h : r ∈ references position v) :
    r.position = position ∧ NamesOutput r.target r.token.dataPointId := by
  obtain ⟨⟨field, text⟩, -, h⟩ := List.mem_flatMap.1 h
  obtain ⟨t, ht, h⟩ := List.mem_filterMap.1 h
  obtain ⟨target, htarget, rfl⟩ := Option.map_eq_some_iff.1 h
  exact ⟨rfl, (named_of_stepOfOutput? (isIdent_of_mem_references ht) htarget).2⟩

/-- What is located is a step with that id. -/
theorem of_locate {id : String} {views : List (Option StepView)} {position : Nat} {v : StepView}
    (h : locate id views = some (position, v)) : views[position]? = some (some v) ∧ v.id = some id := by
  obtain ⟨⟨view, index⟩, hmem, h⟩ := List.exists_of_findSome?_eq_some h
  obtain ⟨v', hfilter, h⟩ := Option.map_eq_some_iff.1 h
  obtain ⟨hview, hid⟩ := Option.filter_eq_some_iff.1 hfilter
  cases h
  refine ⟨?_, by simpa using hid⟩
  rw [← hview]
  exact List.mem_zipIdx_iff_getElem?.1 hmem

theorem mem_allReferences {views : List (Option StepView)} {position : Nat} {v : StepView}
    {r : Reference} (hv : views[position]? = some (some v)) (h : r ∈ references position v) :
    r ∈ allReferences views := by
  rw [allReferences, List.mem_flatMap]
  exact ⟨(some v, position), List.mem_zipIdx_iff_getElem?.2 hv, h⟩

theorem problem?_of_unreported {views : List (Option StepView)} {r : Reference}
    (h : r ∈ allReferences views) (unreported : r ∉ (analyzeViews views).map Issue.reference) :
    problem? views r = none := by
  cases hp : problem? views r with
  | none => rfl
  | some p =>
    have hissue : (⟨r, p⟩ : Issue) ∈ analyzeViews views :=
      List.mem_filterMap.2 ⟨r, h, by rw [hp]; rfl⟩
    exact absurd (List.mem_map_of_mem hissue) unreported

/-- **A use that is not reported is one of the output of a task step that stands before it.** -/
theorem exists_target_of_unreported {steps : List Step} {i : Nat} {s : Step} {r : Reference}
    (hs : steps[i]? = some s) (h : r ∈ references i (.ofStep s))
    (unreported : r ∉ (analyze steps).map Issue.reference) :
    ∃ j t, j < i ∧ steps[j]? = some t ∧ t.id = r.target ∧ t.kind = .task := by
  have hview : (steps.map fun s => some (StepView.ofStep s))[i]? = some (some (.ofStep s)) := by
    rw [List.getElem?_map, hs]
    rfl
  have hproblem := problem?_of_unreported (mem_allReferences hview h) unreported
  rw [problem?] at hproblem
  split at hproblem
  · cases hproblem
  · rename_i j v hlocate
    obtain ⟨hj, hid⟩ := of_locate hlocate
    rw [List.getElem?_map] at hj
    obtain ⟨t, ht, hv⟩ := Option.map_eq_some_iff.1 hj
    obtain rfl := Option.some.inj hv
    rw [(of_mem_references h).1] at hproblem
    have hlt : ¬ i ≤ j := by
      intro hle
      simp [hle] at hproblem
    refine ⟨j, t, Nat.lt_of_not_le hlt, ht, Option.some.inj hid, ?_⟩
    cases hk : t.kind with
    | task => rfl
    | handler => simp [StepView.ofStep, hk, hlt] at hproblem

end Runbook.Dependency
