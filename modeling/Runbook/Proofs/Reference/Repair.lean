import Mathlib.Data.List.Forall2
import Runbook.Proofs.Json.Fields
import Runbook.Proofs.Json.Walk
import Runbook.Proofs.Reference.Correct

/-!
# Repair is exact

* `StepRewritten` — two steps that differ in nothing but the texts in their inputs and their conditions.
* `leaves` — those texts, with the paths to them.
* `repairStep_rewritten`, `repairSteps_rewritten` — a repair leaves such steps, one for one;
  `found_repairSteps` — what it finds is what there is to find in each of those texts.
* `repairJson_exact` — what a repair does to a workflow, all in one place.
-/

namespace Runbook

/-- The value with `f s` in the place of a text `s`; what is no text stays. -/
def Json.mapText (f : String → String) : Json → Json
  | .str s => .str (f s)
  | value => value

namespace Repair

/-- Two steps that differ in nothing but the texts in the input and the text of the condition. -/
inductive StepRewritten (f : String → String) : Json → Json → Prop where
  | record {fields fields' : Fields} (same : Fields.AgreeOutside ["input", "condition"] fields fields')
      (input : fields'.get? "input" = (Fields.get? "input" fields).map (Json.mapTexts f))
      (condition : fields'.get? "condition" = (Fields.get? "condition" fields).map (Json.mapText f)) :
      StepRewritten f (.record fields) (.record fields')
  | other {value : Json} (noRecord : value.fields? = none) : StepRewritten f value value

/-- The texts of the step at a position in which tokens are corrected, and the paths to them. -/
def leaves (position : Nat) : Json → List (String × String)
  | .record fields =>
    let path := Path.item "steps" position
    ((Fields.get? "input" fields).map (Json.texts (Path.member path "input"))).getD [] ++
      (((Fields.get? "condition" fields).bind Json.text?).map fun text =>
        (Path.member path "condition", text)).toList
  | _ => []

/-- The texts of all steps from a position on. -/
def allLeaves (position : Nat) (steps : List Json) : List (String × String) :=
  (steps.zipIdx position).flatMap fun step => leaves step.2 step.1

variable {ids : List String}

/-! ## Members of a step -/

section

variable {key : String} {fields : Fields} {value : Json}

theorem repairMember_of_get? (h : fields.get? key = some value) (repair : Json → Json × List Suggestion) :
    repairMember key repair fields = (fields.set key (repair value).1, (repair value).2) := by
  rw [repairMember, h]

theorem repairMember_of_none (h : fields.get? key = none) (repair : Json → Json × List Suggestion) :
    repairMember key repair fields = (fields, []) := by
  rw [repairMember, h]

end

section

variable (key : String) (repair : Json → Json × List Suggestion) (fields : Fields)

theorem agreeOutside_repairMember :
    Fields.AgreeOutside [key] fields (repairMember key repair fields).1 := by
  cases h : fields.get? key with
  | none =>
    rw [repairMember_of_none h]
    exact .refl _ _
  | some value =>
    rw [repairMember_of_get? h]
    exact Fields.agreeOutside_set (Fields.has_of_get? h) _

theorem get?_repairMember :
    (repairMember key repair fields).1.get? key = (fields.get? key).map fun v => (repair v).1 := by
  cases h : fields.get? key with
  | none => rw [repairMember_of_none h, h, Option.map_none]
  | some value => rw [repairMember_of_get? h, Fields.get?_set (Fields.has_of_get? h), Option.map_some]

theorem found_repairMember :
    (repairMember key repair fields).2 = ((fields.get? key).map fun v => (repair v).2).getD [] := by
  cases h : fields.get? key with
  | none => rw [repairMember_of_none h, Option.map_none, Option.getD_none]
  | some value => rw [repairMember_of_get? h, Option.map_some, Option.getD_some]

end

theorem fst_repairText (identifiers : Identifiers ids) (path text : String) :
    (repairText ids path text).1 = rewrite ids text := by
  rw [repairText_eq identifiers]

theorem fst_repairCondition {f : String → String} (h : ∀ path text, (repairText ids path text).1 = f text)
    (field : String) (value : Json) : (repairCondition ids field value).1 = value.mapText f := by
  cases value with
  | str text => exact congrArg Json.str (h field text)
  | _ => rfl

theorem found_repairCondition (field : String) (value : Json) :
    (repairCondition ids field value).2 =
      (value.text?.map (suggestions ids field)).getD [] := by
  cases value <;> rfl

/-! ## Steps -/

/-- What becomes of the input of the step at a position. -/
def repairInputAt (ids : List String) (position : Nat) : Json → Json × List Suggestion :=
  Json.walk (repairText ids) (Path.member (Path.item "steps" position) "input")

/-- What becomes of the condition of the step at a position. -/
def repairConditionAt (ids : List String) (position : Nat) : Json → Json × List Suggestion :=
  repairCondition ids (Path.member (Path.item "steps" position) "condition")

/-- The input of a step is repaired first, and then its condition. -/
theorem fst_repairStep_record (ids : List String) (position : Nat) (fields : Fields) :
    (repairStep ids position (.record fields)).1 =
      .record (repairMember "condition" (repairConditionAt ids position)
        (repairMember "input" (repairInputAt ids position) fields).1).1 :=
  rfl

theorem snd_repairStep_record (ids : List String) (position : Nat) (fields : Fields) :
    (repairStep ids position (.record fields)).2 =
      (repairMember "input" (repairInputAt ids position) fields).2 ++
        (repairMember "condition" (repairConditionAt ids position)
          (repairMember "input" (repairInputAt ids position) fields).1).2 :=
  rfl

/-- A repair changes nothing of a step but those texts, whatever a repair makes of a text. -/
theorem repairStep_rewritten {f : String → String} (h : ∀ path text, (repairText ids path text).1 = f text)
    (position : Nat) (step : Json) : StepRewritten f step (repairStep ids position step).1 := by
  cases step with
  | record fields =>
    have hinput := agreeOutside_repairMember "input" (repairInputAt ids position) fields
    have hcondition := agreeOutside_repairMember "condition" (repairConditionAt ids position)
      (repairMember "input" (repairInputAt ids position) fields).1
    rw [fst_repairStep_record]
    refine .record (hinput.trans hcondition) ?_ ?_
    · rw [hcondition.get? "input" (by decide), get?_repairMember]
      refine Option.map_congr fun value _ => ?_
      exact Json.fst_walk h _ value
    · rw [get?_repairMember, hinput.get? "condition" (by decide)]
      exact Option.map_congr fun value _ => fst_repairCondition h _ value
  | _ => exact .other rfl

theorem found_repairStep (position : Nat) (step : Json) :
    (repairStep ids position step).2 =
      (leaves position step).flatMap fun leaf => suggestions ids leaf.1 leaf.2 := by
  cases step with
  | record fields =>
    have hcondition := (agreeOutside_repairMember "input" (repairInputAt ids position) fields).get? "condition"
      (by decide)
    rw [snd_repairStep_record, leaves, List.flatMap_append, found_repairMember, found_repairMember, hcondition]
    congr 1
    · cases Fields.get? "input" fields with
      | none => rfl
      | some value => exact Json.snd_walk _ value
    · cases Fields.get? "condition" fields with
      | none => rfl
      | some value =>
        show (repairCondition ids _ value).2 = _
        rw [found_repairCondition]
        cases value <;> simp [Json.text?]
  | _ => rfl

theorem repairSteps_rewritten (identifiers : Identifiers ids) (position : Nat)
    (steps : List Json) :
    List.Forall₂ (StepRewritten (rewrite ids)) steps (repairSteps ids position steps).1 := by
  induction steps generalizing position with
  | nil => exact .nil
  | cons step rest ih => exact .cons (repairStep_rewritten (fst_repairText identifiers) position step) (ih _)

theorem found_repairSteps (position : Nat) (steps : List Json) :
    (repairSteps ids position steps).2 =
      (allLeaves position steps).flatMap fun leaf => suggestions ids leaf.1 leaf.2 := by
  induction steps generalizing position with
  | nil => rfl
  | cons step rest ih =>
    have hleaves : allLeaves position (step :: rest) =
        leaves position step ++ allLeaves (position + 1) rest := by
      simp [allLeaves]
    rw [hleaves, List.flatMap_append, ← found_repairStep, ← ih]
    rfl

/-! ## Workflows -/

/-- What a repair does to a workflow with these members and these steps. -/
structure Exact (fields : Fields) (steps : List Json) (result : Result Json) : Prop where
  /-- Nothing is changed but texts in the inputs and the texts of the conditions of steps, and in these
  nothing but the tokens that have a correction, all of them and all at once. -/
  workflow : ∃ (fields' : Fields) (steps' : List Json), result.workflow = .record fields' ∧
    Fields.AgreeOutside ["steps"] fields fields' ∧ fields'.get? "steps" = some (.list steps') ∧
      List.Forall₂ (StepRewritten (rewrite (stepIds steps))) steps steps'
  /-- However many of the replacements in a text were made already, they have changed the tokens that they
  are about, as the text had them from the start, and nothing else. -/
  sequential : ∀ (field text : String) (made rest : List Suggestion),
    suggestions (stepIds steps) field text = made ++ rest →
      correct text made = Template.fill (fun t =>
        (if t ∈ made.map Suggestion.token then (correction? (stepIds steps) t).getD t else t).write) text
  found : result.suggestions =
    (allLeaves 0 steps).flatMap fun leaf => suggestions (stepIds steps) leaf.1 leaf.2
  /-- What is counted are the different tokens that are corrected, for each text. -/
  fixedCount_leaves : result.fixedCount = ((allLeaves 0 steps).flatMap fun leaf =>
    (rewrittenTexts (stepIds steps) leaf.2).map fun text => (leaf, text)).length
  fixedCount_applied : result.fixedCount = (result.suggestions.filter Suggestion.applied).length
  repaired_iff : result.repaired = true ↔ 0 < result.fixedCount

/-- **Repair is exact.** If the ids of the steps are made of the characters of identifiers, then a repair
puts the corrected tokens in the place of the tokens that have a correction, in the inputs and conditions of
steps, and changes nothing else; and it counts them once for each text. -/
theorem repairJson_exact {fields : Fields} {steps : List Json}
    (listed : fields.get? "steps" = some (.list steps)) (identifiers : Identifiers (stepIds steps)) :
    Exact fields steps (repairJson (.record fields)) := by
  have hhas := Fields.has_of_get? listed
  have hrepair : repairJson (.record fields) =
      ⟨.record (fields.set "steps" (.list (repairSteps (stepIds steps) 0 steps).1)),
        (repairSteps (stepIds steps) 0 steps).2⟩ := by
    simp only [repairJson, listed]
  have hfound : (repairSteps (stepIds steps) 0 steps).2 = _ := found_repairSteps 0 steps
  rw [hrepair]
  exact
    { workflow :=
        ⟨_, _, rfl, Fields.agreeOutside_set hhas _, Fields.get?_set hhas,
          repairSteps_rewritten identifiers 0 steps⟩
      sequential := fun _ _ _ _ h => correct_eq_fill identifiers h
      found := hfound
      fixedCount_leaves := by
        show ((repairSteps (stepIds steps) 0 steps).2.filter Suggestion.isCorrected).length = _
        rw [hfound, List.filter_flatMap, List.length_flatMap, List.length_flatMap]
        refine congrArg List.sum (List.map_congr_left fun leaf _ => ?_)
        rw [length_corrected, List.length_map]
      fixedCount_applied := by
        show ((repairSteps (stepIds steps) 0 steps).2.filter Suggestion.isCorrected).length = _
        refine congrArg List.length (List.filter_congr fun s hs => ?_)
        rw [hfound] at hs
        obtain ⟨leaf, -, hs⟩ := List.mem_flatMap.1 hs
        exact (applied_eq_isCorrected hs).symm
      repaired_iff := by simp [Result.repaired] }

/-- A text with two tokens for an output under a stale id and one that no step is like: the first two are
corrected, also behind a `$`, and counted once. -/
theorem repairJson_exact_drifted :
    let text := "see ${step_1_output.x}, $${step_1_output.x} and ${step_2_output}"
    let steps : List Json :=
      [.record [("id", .str "step_1_0"), ("type", .str "task"), ("input", .record [("q", .str text)])]]
    let fields : Fields := [("name", .str "w"), ("steps", .list steps)]
    Fields.get? "steps" fields = some (.list steps) ∧ Identifiers (stepIds steps) ∧
      Exact fields steps (repairJson (.record fields)) ∧
        rewrite (stepIds steps) text =
          "see ${step_1_0_output.x}, $${step_1_0_output.x} and ${step_2_output}" ∧
        (repairJson (.record fields)).fixedCount = 1 := by
  intro text steps fields
  have listed : Fields.get? "steps" fields = some (.list steps) := rfl
  have identifiers : Identifiers (stepIds steps) := by
    have hids : stepIds steps = ["step_1_0"] := rfl
    rw [hids]
    intro id hid
    obtain rfl := List.mem_singleton.1 hid
    exact List.all_eq_true.1 (by decide)
  exact ⟨listed, identifiers, repairJson_exact listed identifiers, by decide +kernel, by decide +kernel⟩

end Repair

end Runbook
