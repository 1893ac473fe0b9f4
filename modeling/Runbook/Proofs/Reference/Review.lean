import Runbook.Proofs.Reference.Dependency
import Runbook.Proofs.Reference.Legacy
import Runbook.Proofs.Reference.Repair

/-!
# A repair leaves for review what the analysis finds missing

* `UsesOutput` — a text has a token that names the output of a step.
* `Dependency.mem_unknownSteps` — the analysis finds a step missing exactly if one of the texts in which tokens
  are corrected uses its output and no step has its id.
* `usesOutput_rewrite` — of the outputs of missing steps that a text uses, its corrected text still uses those
  for which no step was found.
* `forReview_repairJson` — so what is left for review after a repair is what the analysis of the repaired steps
  finds missing.
-/

namespace Runbook

/-- Does the text have a token that names the output of the step? -/
def UsesOutput (step text : String) : Prop :=
  ∃ t ∈ Template.tokens text, stepOfOutput? t.dataPointId = some step

theorem UsesOutput.hasTokens {step text : String} (h : UsesOutput step text) :
    Template.hasTokens text = true := by
  obtain ⟨t, ht, -⟩ := h
  rw [Template.hasTokens, Bool.not_eq_true', List.isEmpty_eq_false_iff]
  exact List.ne_nil_of_mem ht

namespace Dependency

open Repair (leaves allLeaves stepIds)

/-- The missing steps whose outputs are used, each after the path to the text that uses it. -/
def unknownSteps (issues : List Issue) : List (String × String) :=
  (issues.filter fun i => i.problem == .unknownStep).map fun i => (i.reference.field, i.reference.target)

/-! ## References -/

theorem exists_mem_referencesInText {position : Nat} {stepId : Option String}
    {path text field target : String} :
    (∃ r ∈ referencesInText position stepId path text, r.field = field ∧ r.target = target) ↔
      path = field ∧ UsesOutput target text := by
  simp only [referencesInText, List.mem_filterMap, Option.map_eq_some_iff]
  constructor
  · rintro ⟨r, ⟨t, ht, target', htarget, rfl⟩, rfl, rfl⟩
    obtain ⟨t', ht', rfl⟩ := List.mem_map.1 ht
    refine ⟨rfl, t', ht', ?_⟩
    split at htarget <;> exact htarget
  · rintro ⟨rfl, t, ht, htarget⟩
    refine ⟨_, ⟨_, List.mem_map_of_mem ht, target, ?_, rfl⟩, rfl, rfl⟩
    split <;> exact htarget

variable {position : Nat} {step : Json} {v : StepView} {field target : String}

theorem ofJson?_cases (h : StepView.ofJson? step = some v) :
    ∃ fields, step = .record fields ∧
      v = ⟨(Fields.get? "id" fields).bind Json.text?, (Fields.get? "type" fields).bind Json.text?,
        (Fields.get? "input" fields).getD .null, (Fields.get? "condition" fields).bind Json.text?⟩ := by
  cases step with
  | record fields => exact ⟨fields, rfl, (Option.some.inj h).symm⟩
  | _ => cases h

/-- The texts that may hold tokens are those in which tokens are corrected, but for texts without tokens. -/
theorem mem_templates (hv : StepView.ofJson? step = some v)
    (current : Legacy.stepNeedsMigration step = false) {leaf : String × String}
    (tokens : Template.hasTokens leaf.2 = true) :
    leaf ∈ templates position v ↔ leaf ∈ leaves position step := by
  obtain ⟨fields, rfl, rfl⟩ := ofJson?_cases hv
  rw [templates, leaves, List.mem_append, List.mem_append]
  refine or_congr ?_ Iff.rfl
  rw [Legacy.stepNeedsMigration, Json.get?] at current
  cases hinput : Fields.get? "input" fields with
  | none => exact Iff.rfl
  | some input =>
    rw [hinput] at current
    simp only [Option.getD_some, Option.map_some, Json.templates] at current ⊢
    rw [Legacy.templates_of_not_contains _ input current, List.mem_filter]
    exact and_iff_left tokens

theorem exists_mem_references (hv : StepView.ofJson? step = some v)
    (current : Legacy.stepNeedsMigration step = false) :
    (∃ r ∈ references position v, r.field = field ∧ r.target = target) ↔
      ∃ leaf ∈ leaves position step, leaf.1 = field ∧ UsesOutput target leaf.2 := by
  constructor
  · rintro ⟨r, hr, hfield⟩
    obtain ⟨leaf, hleaf, hr⟩ := List.mem_flatMap.1 hr
    have huses := exists_mem_referencesInText.1 ⟨r, hr, hfield⟩
    exact ⟨leaf, (mem_templates hv current huses.2.hasTokens).1 hleaf, huses⟩
  · rintro ⟨leaf, hleaf, huses⟩
    have hreferences : ∃ r ∈ referencesInText position v.id leaf.1 leaf.2,
        r.field = field ∧ r.target = target := exists_mem_referencesInText.2 huses
    obtain ⟨r, hr, hfield⟩ := hreferences
    exact ⟨r, List.mem_flatMap.2
      ⟨leaf, (mem_templates hv current huses.2.hasTokens).2 hleaf, hr⟩, hfield⟩

/-! ## Missing steps -/

theorem locate_eq_none_iff {id : String} {views : List (Option StepView)} :
    locate id views = none ↔ ∀ v, some v ∈ views → v.id ≠ some id := by
  rw [locate, List.findSome?_eq_none_iff]
  constructor
  · intro h v hv hid
    obtain ⟨position, hposition⟩ := List.mem_iff_getElem?.1 hv
    have hnone := h (some v, position) (List.mem_zipIdx_iff_getElem?.2 hposition)
    simp [hid] at hnone
  · rintro h ⟨view, position⟩ hmem
    cases view with
    | none => rfl
    | some v =>
      have hne := h v (List.mem_of_getElem? (List.mem_zipIdx_iff_getElem?.1 hmem))
      simp [hne]

/-- The analysis knows the ids that a repair knows. -/
theorem locate_eq_none_iff_notMem {id : String} {steps : List Json} :
    locate id (steps.map StepView.ofJson?) = none ↔ id ∉ stepIds steps := by
  rw [locate_eq_none_iff, stepIds, List.mem_filterMap]
  constructor
  · rintro h ⟨step, hstep, hid⟩
    cases step with
    | record fields => exact h _ (List.mem_map_of_mem hstep) hid
    | _ => cases hid
  · rintro h v hv hid
    obtain ⟨step, hstep, hv⟩ := List.mem_map.1 hv
    obtain ⟨fields, rfl, rfl⟩ := ofJson?_cases hv
    exact h ⟨_, hstep, hid⟩

theorem problem?_eq_unknownStep_iff {views : List (Option StepView)} {r : Reference} :
    problem? views r = some .unknownStep ↔ locate r.target views = none := by
  rw [problem?]
  split
  · rename_i hlocate
    simp [hlocate]
  · rename_i hlocate
    rw [hlocate]
    split
    · simp
    · split <;> simp

theorem exists_mem_allReferences {steps : List Json}
    (current : ∀ step ∈ steps, Legacy.stepNeedsMigration step = false) :
    (∃ r ∈ allReferences (steps.map StepView.ofJson?), r.field = field ∧ r.target = target) ↔
      ∃ leaf ∈ allLeaves 0 steps, leaf.1 = field ∧ UsesOutput target leaf.2 := by
  simp only [allReferences, allLeaves, List.mem_flatMap]
  constructor
  · rintro ⟨r, ⟨⟨view, position⟩, hview, hr⟩, hfield⟩
    rw [List.mem_zipIdx_iff_getElem?, List.getElem?_map, Option.map_eq_some_iff] at hview
    obtain ⟨step, hstep, hv⟩ := hview
    cases view with
    | none => cases hr
    | some v =>
      obtain ⟨leaf, hleaf, huses⟩ :=
        (exists_mem_references hv (current step (List.mem_of_getElem? hstep))).1 ⟨r, hr, hfield⟩
      exact ⟨leaf, ⟨(step, position), List.mem_zipIdx_iff_getElem?.2 hstep, hleaf⟩, huses⟩
  · rintro ⟨leaf, ⟨⟨step, position⟩, hstep, hleaf⟩, huses⟩
    rw [List.mem_zipIdx_iff_getElem?] at hstep
    cases hv : StepView.ofJson? step with
    | none =>
      cases step with
      | record fields => cases hv
      | _ => cases hleaf
    | some v =>
      obtain ⟨r, hr, hfield⟩ :=
        (exists_mem_references hv (current step (List.mem_of_getElem? hstep))).2 ⟨leaf, hleaf, huses⟩
      refine ⟨r, ⟨(some v, position), ?_, hr⟩, hfield⟩
      rw [List.mem_zipIdx_iff_getElem?, List.getElem?_map, hstep, ← hv]
      rfl

/-- A step is found missing exactly if one of the texts in which tokens are corrected uses its output and no
step has its id. -/
theorem mem_unknownSteps {steps : List Json}
    (current : ∀ step ∈ steps, Legacy.stepNeedsMigration step = false) :
    (field, target) ∈ unknownSteps (analyzeJson steps) ↔
      target ∉ stepIds steps ∧ ∃ leaf ∈ allLeaves 0 steps, leaf.1 = field ∧ UsesOutput target leaf.2 := by
  rw [← exists_mem_allReferences current, ← locate_eq_none_iff_notMem]
  simp only [unknownSteps, analyzeJson, analyzeViews, List.mem_map, List.mem_filter, List.mem_filterMap,
    Option.map_eq_some_iff, beq_iff_eq]
  constructor
  · rintro ⟨i, ⟨⟨r, hr, problem, hproblem, rfl⟩, rfl⟩, h⟩
    obtain ⟨rfl, rfl⟩ := Prod.mk.inj h
    exact ⟨problem?_eq_unknownStep_iff.1 hproblem, r, hr, rfl, rfl⟩
  · rintro ⟨hmissing, r, hr, rfl, rfl⟩
    exact ⟨⟨r, .unknownStep⟩, ⟨⟨r, hr, _, problem?_eq_unknownStep_iff.2 hmissing, rfl⟩, rfl⟩, rfl⟩

end Dependency

namespace Repair

open Dependency (unknownSteps analyzeJson)

/-- The missing steps of the tokens that a repair did not change, each after the path to the text with the
token. -/
def Result.forReview {α : Type} (r : Result α) : List (String × String) :=
  (r.suggestions.filter fun s => !s.applied).map fun s => (s.field, s.stepId)

variable {ids : List String} {field target path text : String}

/-! ## One text -/

theorem exists_mem_suggestions {P : Token → Prop} :
    (∃ s ∈ suggestions ids path text, P s.token ∧ s.field = field ∧ s.stepId = target) ↔
      target ∉ ids ∧ path = field ∧
        ∃ t ∈ Template.tokens text, stepOfOutput? t.dataPointId = some target ∧ P t := by
  simp only [suggestions, List.mem_filterMap, List.mem_eraseDups, suggest?_eq_some_iff]
  constructor
  · rintro ⟨s, ⟨t, ht, step, hstep, hmissing, rfl⟩, hP, rfl, rfl⟩
    exact ⟨hmissing, rfl, t, ht, hstep, hP⟩
  · rintro ⟨hmissing, rfl, t, ht, hstep, hP⟩
    exact ⟨_, ⟨t, ht, target, hstep, hmissing, rfl⟩, hP, rfl, rfl⟩

theorem mem_of_stepOfOutput?_correction {t new : Token} (h : correction? ids t = some new)
    (hstep : stepOfOutput? new.dataPointId = some target) : target ∈ ids := by
  obtain ⟨candidate, hmem, rfl⟩ := correction?_cases h
  rw [stepOfOutput?_append] at hstep
  split at hstep
  · cases hstep
  · exact Option.some.inj hstep ▸ hmem

/-- A corrected text uses the outputs of those missing steps for which no step was found. -/
theorem usesOutput_rewrite (identifiers : Identifiers ids) (missing : target ∉ ids) :
    UsesOutput target (rewrite ids text) ↔ ∃ t ∈ Template.tokens text,
      stepOfOutput? t.dataPointId = some target ∧ correction? ids t = none := by
  rw [UsesOutput, tokens_rewrite identifiers]
  constructor
  · rintro ⟨new, hnew, hstep⟩
    obtain ⟨t, ht, rfl⟩ := List.mem_map.1 hnew
    cases hc : correction? ids t with
    | none =>
      rw [hc] at hstep
      exact ⟨t, ht, hstep, hc⟩
    | some new =>
      rw [hc] at hstep
      exact absurd (mem_of_stepOfOutput?_correction hc hstep) missing
  · rintro ⟨t, ht, hstep, hc⟩
    refine ⟨t, List.mem_map.2 ⟨t, ht, ?_⟩, hstep⟩
    rw [hc]
    rfl

/-- What is left for review in a text are the missing steps whose outputs its corrected text uses. -/
theorem exists_unapplied_iff (identifiers : Identifiers ids) :
    (∃ s ∈ suggestions ids path text, s.applied = false ∧ s.field = field ∧ s.stepId = target) ↔
      target ∉ ids ∧ path = field ∧ UsesOutput target (rewrite ids text) := by
  have happlied : ∀ s ∈ suggestions ids path text,
      s.applied = false ↔ correction? ids s.token = none := by
    intro s hs
    rw [applied_eq_isCorrected hs, (of_suggest? (of_mem_suggestions hs).2).2.2,
      Option.isSome_eq_false_iff, Option.isNone_iff_eq_none]
  calc (∃ s ∈ suggestions ids path text, s.applied = false ∧ s.field = field ∧ s.stepId = target)
      ↔ ∃ s ∈ suggestions ids path text,
          correction? ids s.token = none ∧ s.field = field ∧ s.stepId = target :=
        exists_congr fun s => and_congr_right fun hs => and_congr_left fun _ => happlied s hs
    _ ↔ target ∉ ids ∧ path = field ∧ UsesOutput target (rewrite ids text) := by
        rw [exists_mem_suggestions (P := fun t => correction? ids t = none)]
        exact and_congr_right fun hmissing => and_congr_right fun _ =>
          (usesOutput_rewrite identifiers hmissing).symm

/-! ## Repaired steps -/

section

variable {f : String → String} {step step' : Json} {steps steps' : List Json}

theorem leaves_of_rewritten (h : StepRewritten f step step') (position : Nat) :
    leaves position step' = (leaves position step).map fun leaf => (leaf.1, f leaf.2) := by
  cases h with
  | @record fields fields' same input condition =>
    rw [leaves, leaves, List.map_append, input, condition]
    congr 1
    · cases Fields.get? "input" fields with
      | none => rfl
      | some value => exact Json.texts_mapTexts f _ value
    · cases Fields.get? "condition" fields with
      | none => rfl
      | some value => cases value <;> rfl
  | other noRecord =>
    cases step with
    | record fields => cases noRecord
    | _ => rfl

theorem allLeaves_of_rewritten (h : List.Forall₂ (StepRewritten f) steps steps') (position : Nat) :
    allLeaves position steps' = (allLeaves position steps).map fun leaf => (leaf.1, f leaf.2) := by
  induction h generalizing position with
  | nil => rfl
  | @cons step step' steps steps' hstep _ ih =>
    have hcons : ∀ step steps, allLeaves position (step :: steps) =
        leaves position step ++ allLeaves (position + 1) steps := by
      intro step steps
      simp [allLeaves]
    rw [hcons, hcons, List.map_append, leaves_of_rewritten hstep, ih]

theorem stepIds_of_rewritten (h : List.Forall₂ (StepRewritten f) steps steps') :
    stepIds steps' = stepIds steps := by
  have hid : ∀ {step step' : Json}, StepRewritten f step step' → step'.get? "id" = step.get? "id" := by
    intro step step' h
    cases h with
    | record same => exact same.get? "id" (by decide)
    | other => rfl
  induction h with
  | nil => rfl
  | cons hstep _ ih =>
    simp only [stepIds, List.filterMap_cons] at ih ⊢
    rw [hid hstep, ih]

theorem needsMigration_of_rewritten (hf : ∀ text, f text = "data_point" → text = "data_point")
    (h : List.Forall₂ (StepRewritten f) steps steps')
    (current : ∀ step ∈ steps, Legacy.stepNeedsMigration step = false) :
    ∀ step ∈ steps', Legacy.stepNeedsMigration step = false := by
  have hstep : ∀ {step step' : Json}, StepRewritten f step step' →
      Legacy.stepNeedsMigration step = false → Legacy.stepNeedsMigration step' = false := by
    intro step step' h hcurrent
    cases h with
    | @record fields fields' same input condition =>
      rw [Legacy.stepNeedsMigration, Json.get?] at hcurrent ⊢
      rw [input]
      cases hinput : Fields.get? "input" fields with
      | none => rfl
      | some value =>
        rw [hinput] at hcurrent
        exact Legacy.contains_mapTexts hf value hcurrent
    | other => exact hcurrent
  induction h with
  | nil => exact current
  | cons hfirst _ ih =>
    rw [List.forall_mem_cons] at current ⊢
    exact ⟨hstep hfirst current.1, ih current.2⟩

end

/-! ## Workflows -/

theorem repairJson_of_listed {fields : Fields} {steps : List Json}
    (listed : fields.get? "steps" = some (.list steps)) :
    repairJson (.record fields) =
      ⟨.record (fields.set "steps" (.list (repairSteps (stepIds steps) 0 steps).1)),
        (repairSteps (stepIds steps) 0 steps).2⟩ := by
  simp only [repairJson, listed]

/-- What is found in the steps is found in one of their texts. -/
theorem exists_mem_repairSteps {steps : List Json} {P : Suggestion → Prop} :
    (∃ s ∈ (repairSteps ids 0 steps).2, P s) ↔
      ∃ leaf ∈ allLeaves 0 steps, ∃ s ∈ suggestions ids leaf.1 leaf.2, P s := by
  simp only [found_repairSteps, List.mem_flatMap]
  constructor
  · rintro ⟨s, ⟨leaf, hleaf, hs⟩, hP⟩
    exact ⟨leaf, hleaf, s, hs, hP⟩
  · rintro ⟨leaf, hleaf, s, hs, hP⟩
    exact ⟨s, ⟨leaf, hleaf, hs⟩, hP⟩

theorem exists_found_repairSteps {steps : List Json} :
    (∃ s ∈ (repairSteps ids 0 steps).2, s.field = field ∧ s.stepId = target) ↔
      target ∉ ids ∧ ∃ leaf ∈ allLeaves 0 steps, leaf.1 = field ∧ UsesOutput target leaf.2 := by
  have htext : ∀ leaf : String × String,
      (∃ s ∈ suggestions ids leaf.1 leaf.2, s.field = field ∧ s.stepId = target) ↔
        target ∉ ids ∧ leaf.1 = field ∧ UsesOutput target leaf.2 := by
    intro leaf
    have hsuggestions : (∃ s ∈ suggestions ids leaf.1 leaf.2, True ∧ s.field = field ∧ s.stepId = target) ↔
        target ∉ ids ∧ leaf.1 = field ∧
          ∃ t ∈ Template.tokens leaf.2, stepOfOutput? t.dataPointId = some target ∧ True :=
      exists_mem_suggestions (P := fun _ => True)
    simpa [UsesOutput] using hsuggestions
  rw [exists_mem_repairSteps]
  simp only [htext, and_left_comm (a := _ ∈ allLeaves 0 steps), exists_and_left]

theorem exists_unapplied_repairSteps {steps : List Json} (identifiers : Identifiers ids) :
    (∃ s ∈ (repairSteps ids 0 steps).2, s.applied = false ∧ s.field = field ∧ s.stepId = target) ↔
      target ∉ ids ∧
        ∃ leaf ∈ allLeaves 0 steps, leaf.1 = field ∧ UsesOutput target (rewrite ids leaf.2) := by
  rw [exists_mem_repairSteps]
  simp only [exists_unapplied_iff identifiers, and_left_comm (a := _ ∈ allLeaves 0 steps),
    exists_and_left]

/-- **What a repair leaves for review is what the analysis of the repaired steps finds missing**, if the inputs
have no references of the older kind. Every use of the output of a missing step is found by the repair, and
nothing else is. -/
theorem forReview_repairJson {fields : Fields} {steps : List Json}
    (listed : fields.get? "steps" = some (.list steps)) (identifiers : Identifiers (stepIds steps))
    (current : Legacy.needsMigration (.record fields) = false) :
    ∃ steps', (repairJson (.record fields)).workflow.get? "steps" = some (.list steps') ∧
      (∀ pair, pair ∈ (repairJson (.record fields)).forReview ↔ pair ∈ unknownSteps (analyzeJson steps')) ∧
      (∀ pair, (∃ s ∈ (repairJson (.record fields)).suggestions, pair = (s.field, s.stepId)) ↔
        pair ∈ unknownSteps (analyzeJson steps)) ∧
      ∀ s ∈ (repairJson (.record fields)).suggestions, stepOfOutput? s.token.dataPointId = some s.stepId := by
  have hcurrent : ∀ step ∈ steps, Legacy.stepNeedsMigration step = false := by
    simpa [Legacy.needsMigration, Json.get?, listed] using current
  have hrewritten := repairSteps_rewritten identifiers 0 steps
  have hkept : ∀ text, rewrite (stepIds steps) text = "data_point" → text = "data_point" :=
    fun text h => eq_of_rewrite identifiers h (by decide)
  rw [repairJson_of_listed listed]
  refine ⟨_, Fields.get?_set (Fields.has_of_get? listed), ?_, ?_, ?_⟩
  · rintro ⟨field, target⟩
    rw [Dependency.mem_unknownSteps (needsMigration_of_rewritten hkept hrewritten hcurrent),
      stepIds_of_rewritten hrewritten, allLeaves_of_rewritten hrewritten]
    simpa [Result.forReview, and_assoc] using exists_unapplied_repairSteps identifiers
  · rintro ⟨field, target⟩
    rw [Dependency.mem_unknownSteps hcurrent, ← exists_found_repairSteps]
    simp [eq_comm]
  · intro s hs
    rw [found_repairSteps, List.mem_flatMap] at hs
    obtain ⟨leaf, -, hs⟩ := hs
    obtain ⟨step, hstep, -, hsuggestion⟩ := suggest?_eq_some_iff.1 (of_mem_suggestions hs).2
    rw [hstep, hsuggestion]

/-- Of three missing steps one is found, and no step is like the other two. -/
theorem forReview_repairJson_unmatched :
    let steps : List Json :=
      [.record [("id", .str "step_1_0"), ("condition", .str "${gone_output_17} > 2"),
        ("input", .record [("q", .list [.str "${step_1_output}", .str "$${a_output.x} ${step_1_0_output}"])])]]
    let fields : Fields := [("name", .str "w"), ("steps", .list steps)]
    Fields.get? "steps" fields = some (.list steps) ∧ Identifiers (stepIds steps) ∧
      Legacy.needsMigration (.record fields) = false ∧
      (∃ steps', (repairJson (.record fields)).workflow.get? "steps" = some (.list steps') ∧
        ∀ pair, pair ∈ (repairJson (.record fields)).forReview ↔
          pair ∈ unknownSteps (analyzeJson steps')) ∧
      (repairJson (.record fields)).forReview =
        [("steps[0].input.q[1]", "a"), ("steps[0].condition", "gone")] := by
  intro steps fields
  have listed : Fields.get? "steps" fields = some (.list steps) := rfl
  have identifiers : Identifiers (stepIds steps) := by
    have hids : stepIds steps = ["step_1_0"] := rfl
    rw [hids]
    intro id hid
    obtain rfl := List.mem_singleton.1 hid
    exact List.all_eq_true.1 (by decide)
  have current : Legacy.needsMigration (.record fields) = false := by decide +kernel
  obtain ⟨steps', hsteps', hreview, -⟩ := forReview_repairJson listed identifiers current
  exact ⟨listed, identifiers, current, ⟨steps', hsteps', hreview⟩, by decide +kernel⟩

end Repair

end Runbook
