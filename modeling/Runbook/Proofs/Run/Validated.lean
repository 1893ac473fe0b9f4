import Runbook.Proofs.Run.References
import Runbook.Proofs.Validation.Steps

/-!
# Runs of workflows that pass the validation

* `StepRun.KeepsOutput` — a step has a target, and its output is among the data points at the end of the run
  exactly if it is a task that succeeded, and then it is there once.
* `Runner.run_keeps_outputs` — so it is with every step of a workflow that passes the validation.
-/

namespace Runbook.Run

/-- What the validation makes sure of about a step and its output. -/
structure StepRun.KeepsOutput (r : Runner) (final : List DataPoint) (s : Step) (run : StepRun) : Prop where
  target : ∃ target, Runner.target? s = some target
  /-- The words about a missing target come from nobody but the host. -/
  dispatched : run.result.error = some s!"Step {s.id} has no {s.kind.targetKey}" →
    ∃ request ∈ run.requests, request.isDispatch = true
  /-- The output of a task is there exactly if the task succeeded. -/
  output_iff : s.kind = .task →
    ((∃ p ∈ final, p.id = s.outputId) ↔ run.result.status = .succeeded)
  /-- It is there once, and holds the data of the response. -/
  output : s.kind = .task → run.result.status = .succeeded → ∃ response p,
    run.result.response = some response ∧ (final.filter fun q => q.id == s.outputId) = [p] ∧
      p.value = response.data ∧ p.source = s.id

/-- The words about an input that cannot be resolved do not start like those about a missing target. -/
theorem head?_message_unresolved (error : Token.RenderError) :
    (StepError.unresolved error).message.toList.head? ≠ some 'S' := by
  cases error with
  | notDecimal field =>
    show ("invalid literal for int() with base 10: " ++ _ : String).toList.head? ≠ _
    rw [String.toList_append]
    exact fun h => by cases h
  | tooLong digits =>
    show ("Exceeds the limit (4300 digits) for integer string conversion: value has " ++ _ ++ _ ++ _ :
      String).toList.head? ≠ _
    simp only [String.toList_append]
    exact fun h => by cases h

variable (r : Runner) (host : Host)

namespace Sequential

/-- What a step of a run did is what it does by itself with the data points that it found. -/
theorem exists_eq_step {ss : List Step} {store : Store} {past : List Request} {i : Nat} {s : Step}
    {run : StepRun} (hs : ss[i]? = some s) (hrun : (steps r host ss store past)[i]? = some run) :
    ∃ past', run = step r host s run.before past' := by
  induction ss generalizing store past i with
  | nil => simp at hs
  | cons first rest ih =>
    cases i with
    | zero =>
      obtain rfl := Option.some.inj hs
      obtain rfl := Option.some.inj hrun
      exact ⟨past, by rw [before_step]⟩
    | succ i => exact ih hs hrun

/-- A step that has a target is dispatched, unless it is skipped or its input cannot be resolved. -/
theorem exists_dispatch_step {s : Step} {store : Store} {past : List Request} {target : String}
    (htarget : Runner.target? s = some target)
    (hready : (step r host s store past).result.status ≠ .skipped) :
    (∃ request ∈ (step r host s store past).requests, request.isDispatch = true) ∨
      ∃ error, (step r host s store past).result.error = some (StepError.unresolved error).message := by
  have follows := follows_step r host s store past
  cases hinput : (Json.resolve store (.record s.input)).outcome.value with
  | error error =>
    rw [ne_eq, follows.skipped_iff, before_step] at hready
    refine .inr ⟨error, ?_⟩
    simp only [step, if_neg hready, htarget, hinput]
    rfl
  | ok input =>
    rw [← before_step r host s store past] at hinput
    exact .inl ⟨_, (follows.dispatched hready target input htarget hinput).1, rfl⟩

end Sequential

/-! ## The outputs of a run -/

section

variable {r : Runner} {host : Host} {w : Workflow}

namespace Sequential

/-- What is there at the end are the data points at the start and the outputs. -/
theorem dataPoints_result : (result r host w).dataPoints =
    ((initialStore r host).addAll (outputs r.now (stepRuns r host w))).points :=
  congrArg Store.points (finalStore_eq r host w.steps (initialStore r host) opening)

/-- The steps of a run and what they did, taken together position by position. -/
theorem forall₂_of_getElem? {P : Step → StepRun → Prop}
    (h : ∀ (i : Nat) s run, w.steps[i]? = some s → (stepRuns r host w)[i]? = some run → P s run) :
    List.Forall₂ P w.steps (stepRuns r host w) := by
  have hlength := (forall₂_steps r host w.steps (initialStore r host) opening).length_eq
  refine List.forall₂_of_length_eq_of_get hlength fun i hi hi' => h i _ _ ?_ ?_
  · exact List.getElem?_eq_getElem hi
  · exact List.getElem?_eq_getElem hi'

variable {i : Nat} {s : Step} {run : StepRun}

/-- If an output is there at the end that was not there at the start, then its step has succeeded. -/
theorem succeeded_of_mem_result (distinct : (w.steps.map Step.id).Nodup)
    (fresh : ∀ q ∈ (initialStore r host).points, q.id ≠ s.outputId) (hs : w.steps[i]? = some s)
    (hrun : (stepRuns r host w)[i]? = some run) {p : DataPoint}
    (hp : p ∈ (result r host w).dataPoints) (hid : p.id = s.outputId) :
    run.result.status = .succeeded := by
  rw [dataPoints_result] at hp
  rcases of_mem_addAll_outputs hp with hp | ⟨other, hother, hp⟩
  · exact absurd hid (fresh p hp)
  · have hstepId : other.result.stepId = s.id :=
      (String.append_left_inj _).1 ((StepResult.id_output hp).symm.trans hid)
    have hi := eq_of_stepId r host distinct hs hother hstepId
    obtain rfl : other = run := Option.some.inj (hi.symm.trans hrun)
    exact (StepResult.output?_eq_some_iff.1 hp).1.2

/-- The output of a task that succeeded is there at the end, once. -/
theorem output_of_succeeded (distinct : (w.steps.map Step.id).Nodup)
    (fresh : ∀ q ∈ (initialStore r host).points, q.id ≠ s.outputId) (hs : w.steps[i]? = some s)
    (hrun : (stepRuns r host w)[i]? = some run) (task : s.kind = .task)
    (succeeded : run.result.status = .succeeded) :
    ∃ response p, run.result.response = some response ∧
      ((result r host w).dataPoints.filter fun q => q.id == s.outputId) = [p] ∧
        p.value = response.data ∧ p.source = s.id := by
  have follows := follows_of_getElem? r host hs hrun
  have hmem := List.mem_of_getElem? hrun
  obtain ⟨p, hp⟩ := exists_output r host hmem (follows.kind.trans task) succeeded
  obtain ⟨-, response, hresponse, rfl⟩ := StepResult.output?_eq_some_iff.1 hp
  have hid : (DataPoint.ofTaskOutput r.now run.result.stepId response.data).id = s.outputId := by
    rw [follows.stepId]
    rfl
  have hnodup : ((stepRuns r host w).map fun run => run.result.stepId).Nodup := by
    rwa [stepRuns, stepIds_steps]
  have hresult := mem_addAll_outputs hnodup hmem hp (hid ▸ fresh)
  rw [dataPoints_result]
  exact ⟨response, _, hresponse, hid ▸ Store.filter_id_eq hresult, rfl, follows.stepId⟩

/-- The words about a missing target are the error of no step that has one, but as words of the host. -/
theorem dispatched_of_error {target : String} (hs : w.steps[i]? = some s)
    (hrun : (stepRuns r host w)[i]? = some run) (htarget : Runner.target? s = some target)
    (herror : run.result.error = some s!"Step {s.id} has no {s.kind.targetKey}") :
    ∃ request ∈ run.requests, request.isDispatch = true := by
  obtain ⟨past, hstep⟩ := exists_eq_step r host hs hrun
  have hfailed := (follows_of_getElem? r host hs hrun).failed_iff.2 (by rw [herror]; rfl)
  have hready : (step r host s run.before past).result.status ≠ .skipped := by
    rw [← hstep, hfailed]
    decide
  rw [hstep] at herror ⊢
  rcases exists_dispatch_step r host htarget hready with h | ⟨error, hunresolved⟩
  · exact h
  · -- the error of such a step starts with another letter
    have hwords := Option.some.inj (hunresolved.symm.trans herror)
    refine absurd ?_ (head?_message_unresolved error)
    rw [hwords]
    simp only [String.toList_append]
    rfl

end Sequential

end

/-- **The validation protects outputs.** In a run of a workflow that passes the validation, no step is
without a target, and the output of every task that succeeds is among the data points at the end, once and
with the data of its response, unless the run has started with a data point under the id of an output. -/
theorem Runner.run_keeps_outputs {json : Json} {now : Int} {r : Runner} {w : Workflow}
    {registry : Registry} (host : Host) (passes : Validation.Passes json)
    (decoded : Workflow.decode now json = .accepted w)
    (accepted : (registry.tryBegin (r.runId w)).1 = true)
    (fresh : ∀ q ∈ (Sequential.initialStore r host).points, ∀ s ∈ w.steps, q.id ≠ s.outputId) :
    ((r.run w).perform host registry []).value = .ok (Sequential.result r host w) ∧
      (Sequential.result r host w).steps = (Sequential.stepRuns r host w).map StepRun.result ∧
      List.Forall₂ (fun s run => run.KeepsOutput r (Sequential.result r host w).dataPoints s)
        w.steps (Sequential.stepRuns r host w) := by
  obtain ⟨sound, distinct⟩ := Workflow.sound_of_passes passes decoded
  refine ⟨by rw [perform_run r host (Registry.notMem_of_tryBegin accepted)], rfl, ?_⟩
  refine Sequential.forall₂_of_getElem? fun i s run hs hrun => ?_
  have hmem := List.mem_of_getElem? hs
  have hfresh : ∀ q ∈ (Sequential.initialStore r host).points, q.id ≠ s.outputId :=
    fun q hq => fresh q hq s hmem
  obtain ⟨target, htarget⟩ := (sound s hmem).target
  have output := Sequential.output_of_succeeded distinct hfresh hs hrun
  refine
    { target := ⟨target, htarget⟩
      dispatched := Sequential.dispatched_of_error hs hrun htarget
      output_iff := fun task => ⟨fun ⟨_, hp, hid⟩ =>
        Sequential.succeeded_of_mem_result distinct hfresh hs hrun hp hid, fun succeeded => ?_⟩
      output := output }
  obtain ⟨response, p, -, hfilter, -, -⟩ := output task succeeded
  have hp := hfilter ▸ List.mem_singleton_self p
  exact ⟨p, (List.mem_filter.1 hp).1, by simpa using (List.mem_filter.1 hp).2⟩

/-- The first of two tasks succeeds; the second fails, and the host says so in the words about a missing
target. Only the first has an output. -/
theorem Runner.run_keeps_outputs_reported :
    let words := "Step step_b has no taskId"
    let host : Host := Host.steady fun
      | .context => .ok (.items [])
      | .knowledge => .ok []
      | .sleep _ => ()
      | .dispatch _ target _ _ =>
        if target = "summary" then .ok (.ready { success := true, data := .str "done" })
        else .ok (.ready { success := false, error := some words })
    let step (id target : String) : Json :=
      .record [("id", .str id), ("type", .str "task"), ("taskId", .str target), ("input", .record [])]
    let json : Json := .record
      [("name", .str "Mail"), ("description", .str "Mails"),
        ("triggers", .list [.record [("type", .str "manual")]]),
        ("steps", .list [step "step_a" "summary", step "step_b" "mail"])]
    let w : Workflow :=
      { name := "Mail", description := "Mails", triggers := [{ kind := .manual }], createdAt := 0,
        updatedAt := 0, steps :=
          [{ id := "step_a", kind := .task, taskId := some "summary" },
            { id := "step_b", kind := .task, taskId := some "mail" }] }
    let r : Runner := { now := 0 }
    Validation.Passes json ∧ Workflow.decode 0 json = .accepted w ∧
      (Registry.empty.tryBegin (r.runId w)).1 = true ∧
      (Sequential.initialStore r host).points = [] ∧
      ∃ result, ((r.run w).perform host Registry.empty []).value = .ok result ∧
        (result.steps.map StepResult.error) = [none, some words] ∧
        result.dataPoints = [DataPoint.ofTaskOutput 0 "step_a" (.str "done")] := by
  intro words host step json w r
  have passes : Validation.Passes json := ⟨_, rfl, by decide +kernel⟩
  have decoded : Workflow.decode 0 json = .accepted w := rfl
  have accepted : (Registry.empty.tryBegin (r.runId w)).1 = true := by decide +kernel
  have fresh : (Sequential.initialStore r host).points = [] := rfl
  obtain ⟨hvalue, -, -⟩ := Runner.run_keeps_outputs host passes decoded accepted (by simp [fresh])
  exact ⟨passes, decoded, accepted, fresh, _, hvalue, rfl, rfl⟩

end Runbook.Run
