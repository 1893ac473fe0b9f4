import Runbook.Draft.Materialize
import Runbook.Proofs.Draft.Completion
import Runbook.Proofs.Validation.Written

/-!
# What is made of a draft is valid

The draft that is validated is not the workflow that is given out: between the two, members are filled in, the
draft is decoded, and the workflow leaves out what has no value. `Workflow.valid_of_decode` says that the workflow
is valid all the same, and `materialize_valid` that this is so for every answer of which a workflow is made.
Without a catalog something comes of every answer, unless a number in it has too many digits
(`refused_of_materialize`).
-/

namespace Runbook

open Validation

/-- What can be relied on in a workflow that was made of a draft. -/
structure Workflow.Valid (w : Workflow) : Prop where
  /-- The validation finds no error in it. -/
  errors : ∃ report, (validateWorkflow none w).outcome.value = .ok report ∧ report.errors = []
  ids : ∀ s ∈ w.steps, s.id ≠ ""
  distinct : (w.steps.map Step.id).Nodup
  /-- No step refers to one that does not exist. -/
  known : ∀ issue ∈ Dependency.analyze w.steps, issue.problem ≠ .unknownStep

/-- A workflow that is decoded from one that passes is valid. -/
theorem Workflow.valid_of_decode {now : Int} {json : Json} {w : Workflow} (passes : Passes json)
    (decoded : Workflow.decode now json = .accepted w) : w.Valid := by
  obtain ⟨report, hreport, hvalid⟩ := passes_toJson passes decoded
  obtain ⟨writable, hknown⟩ := stepWritable_of_passes passes decoded
  exact
    { errors := ⟨report, hreport, List.isEmpty_iff.1 hvalid⟩
      ids := fun s hs => (writable s hs).id
      distinct := (Workflow.sound_of_passes passes decoded).2
      known := hknown }

namespace Draft

variable {now stamp : Int} {mended : Bool} {fields : Fields} {answer : String} {outcome : Outcome}

theorem value_repairLogged (draft : Json) : (repairLogged draft).value = Repair.repairJson draft := by
  unfold repairLogged
  by_cases h : (Repair.repairJson draft).repaired = true <;> simp [h]

/-- What comes of a draft once it was validated. -/
def conclude (now stamp : Int) (stages : Stages) : Outcome :=
  if !stages.validation.isValid then .invalid stages
  else
    match Workflow.decode now (.record (withDefaults stamp (stages.repair.workflow.fields?.getD []))) with
    | .rejected issues => .misshapen stages issues.length
    | .accepted w => .built stages w

/-- Without a catalog, every draft is repaired, validated and brought to a conclusion. -/
theorem exists_conclude (now stamp : Int) (mended : Bool) (fields : Fields) :
    ∃ stages, (validate none stages.repair.workflow).outcome.value = .ok stages.validation ∧
      (build now stamp none mended fields).outcome.value = .ok (conclude now stamp stages) := by
  let draft := Json.record (complete stamp fields)
  let result := Repair.repairJson (Legacy.migrate draft)
  obtain ⟨report, hreport⟩ := exists_validate result.workflow
  have hresult : (Attempt.outcome (ExceptT.lift (repairLogged (Legacy.migrate draft)))).value =
      (.ok result : Except Failure _) := congrArg Except.ok (value_repairLogged _)
  refine ⟨⟨report, result, Legacy.needsMigration draft⟩, hreport, ?_⟩
  refine Attempt.value_bind_eq_ok.2 ⟨result, hresult,
    Attempt.value_bind_eq_ok.2 ⟨report, Attempt.value_adapt_eq_ok.2 hreport, ?_⟩⟩
  simp only [conclude]
  cases report.isValid with
  | false => rfl
  | true =>
    cases Workflow.decode now (.record (withDefaults stamp (result.workflow.fields?.getD []))) with
    | rejected issues => rfl
    | accepted w => rfl

/-- A workflow is built only of a draft that passes, once it has what a stored workflow has. -/
theorem exists_of_conclude {stages : Stages} {w : Workflow}
    (hreport : (validate none stages.repair.workflow).outcome.value = .ok stages.validation)
    (h : (conclude now stamp stages).workflow? = some w) :
    ∃ draft, Passes (.record draft) ∧ Workflow.decode now (.record (withDefaults stamp draft)) = .accepted w := by
  unfold conclude at h
  split at h
  · cases h
  · rename_i hvalid
    have passes : Passes stages.repair.workflow := ⟨stages.validation, hreport, by simpa using hvalid⟩
    obtain ⟨draft, -, -, hdraft, -⟩ := steps_of_passes passes
    split at h
    · cases h
    · rename_i w' hdecode
      rw [hdraft, Option.some.inj h] at hdecode
      exact ⟨draft, hdraft ▸ passes, hdecode⟩

/-- Without a catalog, an answer is refused, or no draft is found in it, or the draft is brought to a conclusion. -/
theorem value_materialize (now stamp : Int) (answer : String) :
    (∃ error, read answer = .error (.refused error) ∧
        (materialize now stamp none answer).outcome.value = .error (.refused error)) ∨
      (∃ outcome, outcome.workflow? = none ∧ (materialize now stamp none answer).outcome.value = .ok outcome) ∨
      ∃ stages, (validate none stages.repair.workflow).outcome.value = .ok stages.validation ∧
        (materialize now stamp none answer).outcome.value = .ok (conclude now stamp stages) := by
  unfold materialize
  split
  · exact .inr (.inl ⟨.blank, rfl, rfl⟩)
  · split
    · rename_i error hread
      exact .inl ⟨error, hread, rfl⟩
    · rename_i error _
      exact .inr (.inl ⟨.malformed error, rfl, rfl⟩)
    · rename_i fields mended _
      exact .inr (.inr (exists_conclude now stamp mended fields))
    · exact .inr (.inl ⟨.notRecord, rfl, rfl⟩)

/-- Nothing comes of an answer only if a number in it has too many digits. -/
theorem refused_of_materialize {failure : Failure}
    (h : (materialize now stamp none answer).outcome.value = .error failure) :
    ∃ error, failure = .refused error ∧ read answer = .error (.refused error) := by
  rcases value_materialize now stamp answer with ⟨error, hread, hvalue⟩ | ⟨_, -, hvalue⟩ | ⟨_, -, hvalue⟩
  · exact ⟨error, Except.error.inj (h.symm.trans hvalue), hread⟩
  all_goals cases h.symm.trans hvalue

/-- **What is made of an answer is valid.** A workflow is there exactly if the outcome is a success, and exactly if
it tells of no error. The workflow has steps with ids of their own and refers to no step that does not exist, and
when it is validated once more, no error is found. -/
theorem materialize_valid (h : (materialize now stamp none answer).outcome.value = .ok outcome) :
    (outcome.isSuccess = true ↔ outcome.workflow?.isSome = true) ∧
      (outcome.workflow?.isSome = true ↔ outcome.error? = none) ∧
      ∀ w, outcome.workflow? = some w → w.Valid := by
  refine ⟨Iff.rfl, ?_, fun w hw => ?_⟩
  · cases outcome <;> simp [Outcome.workflow?, Outcome.error?]
  · rcases value_materialize now stamp answer with ⟨_, -, hvalue⟩ | ⟨_, hnone, hvalue⟩ | ⟨stages, hreport, hvalue⟩
    · cases h.symm.trans hvalue
    · obtain rfl := Except.ok.inj (h.symm.trans hvalue)
      cases hnone.symm.trans hw
    · have hconclude := Except.ok.inj (h.symm.trans hvalue)
      obtain ⟨draft, passes, decoded⟩ := exists_of_conclude hreport (hconclude ▸ hw)
      exact Workflow.valid_of_decode (passes_withDefaults stamp passes) decoded

/-- An answer in words, with a draft that has no trigger and a step that has no id and a condition that is null. -/
theorem materialize_valid_unnamed :
    let answer := "Here it is: \x7b\"name\": \"Mail\", \"steps\": [\x7b\"type\": \"task\", " ++
      "\"taskId\": \"summary\", \"input\": \x7b\x7d, \"condition\": null\x7d]\x7d"
    ∃ outcome w, (materialize 0 7 none answer).outcome.value = .ok outcome ∧ outcome.workflow? = some w ∧
      w.steps.map Step.id = ["step_7_0"] ∧ w.Valid := by
  intro answer
  have hids : (((materialize 0 7 none answer).outcome.value.toOption.bind Outcome.workflow?).map fun w =>
      w.steps.map Step.id) = some ["step_7_0"] := by decide +kernel
  obtain ⟨w, hw, hids⟩ := Option.map_eq_some_iff.1 hids
  obtain ⟨outcome, houtcome, hw⟩ := Option.bind_eq_some_iff.1 hw
  have h : (materialize 0 7 none answer).outcome.value = .ok outcome := by
    cases hvalue : (materialize 0 7 none answer).outcome.value with
    | ok outcome' => rw [hvalue] at houtcome; rw [Option.some.inj houtcome]
    | error failure => rw [hvalue] at houtcome; cases houtcome
  exact ⟨outcome, w, h, hw, hids, (materialize_valid h).2.2 w hw⟩

end Draft

end Runbook
