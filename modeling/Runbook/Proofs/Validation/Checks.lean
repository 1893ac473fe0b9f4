import Runbook.Proofs.Validation.Steps

/-!
# Validation taken apart

What has to hold so that there is no error: `passes_record_iff` for a workflow, `checkPasses_checkSteps_iff` for
its steps, and `checkPasses_checkStep_iff` for the members of one of them. Only a schema can put an end to the
validation, so that it always comes to a report where there is no catalog (`exists_validate`).
-/

namespace Runbook.Validation

variable {path : String} {fields : Fields}

/-- What is found is no error where the problem is none. -/
theorem errorFree_findIf_warning {condition : Bool} {field : String} {problem : Problem}
    (hwarning : problem.isError = false) : ErrorFree (findIf condition field problem) := by
  cases condition <;> simp [findIf, hwarning]

/-- Is a check carried out, and does it find no error? -/
def CheckPasses (check : Check) : Prop :=
  ∃ found, check.outcome.value = .ok found ∧ ErrorFree found

/-- A step is checked member by member. -/
theorem checkPasses_checkStep_iff : CheckPasses (checkStep none path fields) ↔
    ErrorFree (checkStepId (Path.member path "id") (memberOf "id" fields)) ∧
      isRecord (memberOf "input" fields) = true ∧
      CheckPasses (checkKind none path fields) ∧
      ErrorFree (checkCondition (Path.member path "condition") (memberOf "condition" fields)) ∧
      isDelay (memberOf "delay" fields) = true ∧
      ErrorFree (checkRetry (Path.member path "retry") (memberOf "retry" fields)) ∧
      ErrorFree (checkInputTokens (Path.member path "input") (memberOf "input" fields)) := by
  constructor
  · rintro ⟨found, hfound, free⟩
    obtain ⟨atTarget, htarget, hfound⟩ := Attempt.value_bind_eq_ok.1 hfound
    obtain rfl := Except.ok.inj hfound
    simp only [errorFree_append] at free
    obtain ⟨⟨⟨⟨⟨⟨hid, hinput⟩, hkind⟩, hcondition⟩, hdelay⟩, hretry⟩, htokens⟩ := free
    rw [errorFree_findIf rfl, Bool.not_eq_false'] at hinput hdelay
    exact ⟨hid, hinput, ⟨atTarget, htarget, hkind⟩, hcondition, hdelay, hretry, htokens⟩
  · rintro ⟨hid, hinput, ⟨atTarget, htarget, hkind⟩, hcondition, hdelay, hretry, htokens⟩
    refine ⟨_, Attempt.value_bind_eq_ok.2 ⟨atTarget, htarget, rfl⟩, ?_⟩
    simp only [errorFree_append]
    refine ⟨⟨⟨⟨⟨⟨hid, ?_⟩, hkind⟩, hcondition⟩, ?_⟩, hretry⟩, htokens⟩
    · rw [errorFree_findIf rfl, hinput]
      rfl
    · rw [errorFree_findIf rfl, hdelay]
      rfl

/-- The condition of a step that passes has no placeholder that is no token. -/
theorem wellFormed_of_checkPasses {text : String} (h : CheckPasses (checkStep none path fields))
    (hcondition : fields.get? "condition" = some (.str text)) : Placeholder.WellFormed text := by
  have hfree := (checkPasses_checkStep_iff.1 h).2.2.2.1
  have hmember : memberOf "condition" fields = .str text := by
    rw [memberOf, hcondition]
    rfl
  rw [hmember, checkCondition] at hfree
  exact errorFree_malformedTokens.1 hfree

theorem ne_empty_of_stepId? {id : String} (h : stepId? fields = some id) : id ≠ "" := by
  unfold stepId? at h
  split at h
  · split at h
    · cases h
    · rename_i hne
      rintro rfl
      exact hne (Option.some.inj h ▸ rfl)
  · cases h

/-! ## Workflows -/

theorem triggers_of_errorFree {fields : Fields} (h : ErrorFree (checkTriggers (memberOf "triggers" fields))) :
    ∃ jsons, fields.get? "triggers" = some (.list jsons) ∧ jsons ≠ [] := by
  unfold checkTriggers at h
  split at h
  · rename_i first rest hmember
    exact ⟨_, get?_of_memberOf hmember (by simp), by simp⟩
  · simp [Problem.isError] at h

theorem passes_record_iff {fields : Fields} : Passes (.record fields) ↔
    isFilledText (memberOf "name" fields) = true ∧ ErrorFree (checkTriggers (memberOf "triggers" fields)) ∧
      ((memberOf "websiteConfig" fields).isNull = false →
        ErrorFree (checkWebsites (memberOf "websiteConfig" fields))) ∧
      CheckPasses (checkSteps none (memberOf "steps" fields)) := by
  constructor
  · rintro ⟨report, hreport, hvalid⟩
    obtain ⟨inSteps, hsteps, hreport⟩ := Attempt.value_bind_eq_ok.1 hreport
    obtain ⟨-, -, hreport⟩ := Attempt.value_bind_eq_ok.1 hreport
    obtain rfl := Except.ok.inj hreport
    rw [isValid_iff] at hvalid
    simp only [errorFree_append] at hvalid
    obtain ⟨⟨⟨⟨hname, -⟩, htriggers⟩, hwebsites⟩, hinSteps⟩ := hvalid
    rw [errorFree_findIf rfl, Bool.not_eq_false'] at hname
    refine ⟨hname, htriggers, fun hnull => ?_, ⟨inSteps, hsteps, hinSteps⟩⟩
    rwa [hnull] at hwebsites
  · rintro ⟨hname, htriggers, hwebsites, inSteps, hsteps, hinSteps⟩
    refine ⟨_, Attempt.value_bind_eq_ok.2 ⟨inSteps, hsteps, Attempt.value_bind_eq_ok.2 ⟨(), rfl, rfl⟩⟩, ?_⟩
    rw [isValid_iff]
    simp only [errorFree_append]
    refine ⟨⟨⟨⟨?_, errorFree_findIf_warning rfl⟩, htriggers⟩, ?_⟩, hinSteps⟩
    · rw [errorFree_findIf rfl, hname]
      rfl
    · cases hnull : (memberOf "websiteConfig" fields).isNull with
      | true => exact errorFree_nil
      | false => exact hwebsites hnull

/-- Steps are checked one by one, and references to steps that do not exist are errors. -/
theorem checkPasses_checkSteps_iff {steps : List Json} : CheckPasses (checkSteps none (.list steps)) ↔
    (∃ found, (checkEachStep none [] 0 steps).outcome.value = .ok found ∧ ErrorFree found.1) ∧
      ∀ issue ∈ Dependency.analyzeJson steps, issue.problem ≠ .unknownStep := by
  have hissues : ∀ ids : List String,
      ErrorFree ((Dependency.analyzeJson steps).map (referenceFinding ids)) ↔
        ∀ issue ∈ Dependency.analyzeJson steps, issue.problem ≠ .unknownStep := by
    intro ids
    rw [ErrorFree, List.forall_mem_map]
    refine forall₂_congr fun issue _ => ?_
    cases hproblem : issue.problem <;> simp [referenceFinding, hproblem, Problem.isError]
  cases steps with
  | nil =>
    refine iff_of_true ⟨_, rfl, by simp [Problem.isError]⟩ ⟨⟨_, rfl, errorFree_nil⟩, ?_⟩
    simp [Dependency.analyzeJson, Dependency.analyzeViews, Dependency.allReferences]
  | cons step rest =>
    constructor
    · rintro ⟨found, hfound, free⟩
      obtain ⟨each, heach, hfound⟩ := Attempt.value_bind_eq_ok.1 hfound
      obtain rfl := Except.ok.inj hfound
      rw [errorFree_append, hissues] at free
      exact ⟨⟨each, heach, free.1⟩, free.2⟩
    · rintro ⟨⟨each, heach, free⟩, hknown⟩
      refine ⟨_, Attempt.value_bind_eq_ok.2 ⟨each, heach, rfl⟩, ?_⟩
      exact errorFree_append.2 ⟨free, (hissues _).2 hknown⟩

/-- In a list of steps against which there is no error, there is none in any of them. -/
theorem checkPasses_of_checkEachStep {seen : SeenIds} {position : Nat} {steps : List Json}
    {found : List Finding × SeenIds} (h : (checkEachStep none seen position steps).outcome.value = .ok found)
    (free : ErrorFree found.1) :
    ∀ step ∈ steps, ∃ path fields, step = .record fields ∧ CheckPasses (checkStep none path fields) := by
  induction steps generalizing seen position found with
  | nil => simp
  | cons step rest ih =>
    cases step with
    | record fields =>
      rw [checkEachStep_record] at h
      obtain ⟨atStep, hstep, h⟩ := Attempt.value_bind_eq_ok.1 h
      obtain ⟨others, hrest, h⟩ := Attempt.value_bind_eq_ok.1 h
      obtain rfl := Except.ok.inj h
      simp only [errorFree_append] at free
      rw [List.forall_mem_cons]
      exact ⟨⟨_, fields, rfl, atStep, hstep, free.1.2⟩, ih hrest free.2⟩
    | _ =>
      obtain ⟨others, hrest, h⟩ := Attempt.value_bind_eq_ok.1 h
      obtain rfl := Except.ok.inj h
      simp [Problem.isError] at free

/-! ## Without a catalog -/

theorem exists_checkKind (path : String) (fields : Fields) :
    ∃ found, (checkKind none path fields).outcome.value = .ok found := by
  unfold checkKind
  split
  · unfold checkTarget
    split
    · split <;> exact ⟨_, rfl⟩
    · exact ⟨_, rfl⟩
  · exact ⟨_, rfl⟩

theorem exists_checkStep (path : String) (fields : Fields) :
    ∃ found, (checkStep none path fields).outcome.value = .ok found := by
  obtain ⟨atTarget, htarget⟩ := exists_checkKind path fields
  exact ⟨_, Attempt.value_bind_eq_ok.2 ⟨atTarget, htarget, rfl⟩⟩

theorem exists_checkEachStep (seen : SeenIds) (position : Nat) (steps : List Json) :
    ∃ found, (checkEachStep none seen position steps).outcome.value = .ok found := by
  induction steps generalizing seen position with
  | nil => exact ⟨_, rfl⟩
  | cons step rest ih =>
    cases step with
    | record fields =>
      obtain ⟨atStep, hstep⟩ := exists_checkStep (Path.item "steps" position) fields
      obtain ⟨others, hrest⟩ := ih (checkNew seen position fields).2 (position + 1)
      rw [checkEachStep_record]
      exact ⟨_, Attempt.value_bind_eq_ok.2 ⟨atStep, hstep, Attempt.value_bind_eq_ok.2 ⟨others, hrest, rfl⟩⟩⟩
    | _ =>
      obtain ⟨others, hrest⟩ := ih seen (position + 1)
      exact ⟨_, Attempt.value_bind_eq_ok.2 ⟨others, hrest, rfl⟩⟩

theorem exists_checkSteps (steps : Json) : ∃ found, (checkSteps none steps).outcome.value = .ok found := by
  unfold checkSteps
  split
  · exact ⟨_, rfl⟩
  · rename_i steps _
    obtain ⟨each, heach⟩ := exists_checkEachStep [] 0 steps
    exact ⟨_, Attempt.value_bind_eq_ok.2 ⟨each, heach, rfl⟩⟩
  · exact ⟨_, rfl⟩

/-- Without a catalog every value comes to a report. -/
theorem exists_validate (workflow : Json) : ∃ report, (validate none workflow).outcome.value = .ok report := by
  cases workflow with
  | record fields =>
    obtain ⟨inSteps, hsteps⟩ := exists_checkSteps (memberOf "steps" fields)
    exact ⟨_, Attempt.value_bind_eq_ok.2 ⟨inSteps, hsteps, Attempt.value_bind_eq_ok.2 ⟨(), rfl, rfl⟩⟩⟩
  | _ => exact ⟨_, rfl⟩

end Runbook.Validation
