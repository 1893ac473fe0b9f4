import Runbook.Proofs.Run.Attempts

/-!
# What a limit of time changes

Two runs of one workflow: a patient one, which waits for the answers to its dispatches as long as it takes, and one
with a limit of time. All dispatches settle within the limit (`Host.SettlesWithin`).

* `Sequential.attempts_limited` — the attempts at a step are the same, up to the words for a timeout that the host
  itself reports.
* `Sequential.step_limited`, `Sequential.steps_limited` — so is every step, and what is found by the one after it.
  The words differ exactly where the last verdict on a step is such a timeout (`StepResult.Limited`).
* `Runner.run_limited` — so is the run, and where no step ends with such a timeout there is no difference at all.
-/

namespace Runbook.Run

variable {seconds : Float} {host : Host}

/-! ## Requests and answers -/

/-- A request of a patient run, and the same request in a run with a limit of time. -/
inductive Request.Limited (seconds : Float) : Request → Request → Prop
  | context : Limited seconds .context .context
  | knowledge : Limited seconds .knowledge .knowledge
  | sleep (pause : Float) : Limited seconds (.sleep pause) (.sleep pause)
  | dispatch (kind : Step.Kind) (target : String) (input : Json) :
    Limited seconds (.dispatch kind target input none) (.dispatch kind target input (some seconds))

/-- Are all dispatches answered within a limit of time as they are without one? Those that settle at once are,
whatever the limit, as long as it is positive. -/
def Host.SettlesWithin (seconds : Float) (host : Host) : Prop :=
  ∀ ⦃past past' : List Request⦄, List.Forall₂ (Request.Limited seconds) past past' →
    ∀ kind target input, host past' (.dispatch kind target input (some seconds)) =
      host past (.dispatch kind target input none)

theorem Request.limited_of_quiet {requests : List Request}
    (quiet : ∀ request ∈ requests, request.isDispatch = false) :
    List.Forall₂ (Limited seconds) requests requests := by
  refine List.forall₂_same.2 fun request h => ?_
  cases request with
  | context => exact .context
  | knowledge => exact .knowledge
  | sleep pause => exact .sleep pause
  | dispatch => cases quiet _ h

/-- The runner that waits for answers as long as it takes. -/
def Runner.patient (r : Runner) : Runner :=
  { r with timeout := none }

/-- The runner that waits no longer than so many seconds for an answer. -/
def Runner.limited (seconds : Float) (r : Runner) : Runner :=
  { r with timeout := some seconds }

/-- What was wrong with an attempt, in the words of a run with a limit of time: every timeout counts as its own. -/
def AttemptError.limited (seconds : Float) (kind : Step.Kind) (target : String) : AttemptError → AttemptError
  | fault f => if f.isTimeout then timedOut kind target seconds else fault f
  | error => error

theorem AttemptError.limited_cases (seconds : Float) (kind : Step.Kind) (target : String) (error : AttemptError) :
    ((∀ f, error = .fault f → f.isTimeout = false) ∧ error.limited seconds kind target = error) ∨
      ∃ f, f.isTimeout = true ∧ error = .fault f ∧
        error.limited seconds kind target = .timedOut kind target seconds := by
  cases error with
  | fault f =>
    cases hf : f.isTimeout with
    | true => exact .inr ⟨f, hf, rfl, by rw [limited, if_pos hf]⟩
    | false => exact .inl ⟨by simp [hf], by rw [limited, if_neg (by simp [hf])]⟩
  | _ => exact .inl ⟨by simp, rfl⟩

/-- The end of the attempts at a step, in the words of a run with a limit of time. -/
def Dispatched.limited (seconds : Float) (kind : Step.Kind) (target : String) (d : Dispatched) : Dispatched :=
  { d with error := d.error.map (AttemptError.limited seconds kind target) }

theorem Runner.judge_limited (r : Runner) (kind : Step.Kind) (target : String) (answer : Except Fault Reply) :
    (r.limited seconds).judge kind target answer =
      ((r.patient.judge kind target answer).1,
        (r.patient.judge kind target answer).2.map (AttemptError.limited seconds kind target)) := by
  cases answer with
  | error f => cases hf : f.isTimeout <;> simp [judge, patient, limited, hf, AttemptError.limited]
  | ok reply =>
    cases hreply : reply.response with
    | error error => simp [judge, hreply, AttemptError.limited]
    | ok response => cases hsuccess : response.success <;> simp [judge, hreply, hsuccess, AttemptError.limited]

namespace Sequential

/-! ## The attempts at a step -/

variable {r : Runner} {retry : Retry} {kind : Step.Kind} {target : String} {input : Json} {left n : Nat}
  {past past' pause : List Request} {made : List Request × Except StepError Dispatched}

/-- What comes of an attempt after the same requests. -/
theorem judge_answer_limited (settles : host.SettlesWithin seconds)
    (hpast : List.Forall₂ (Request.Limited seconds) past past') {response : Option Response}
    {error : Option AttemptError}
    (judged : r.patient.judge kind target (host past (.dispatch kind target input none)) = (response, error)) :
    (r.limited seconds).judge kind target (host past' (.dispatch kind target input (some seconds))) =
      (response, error.map (AttemptError.limited seconds kind target)) := by
  calc (r.limited seconds).judge kind target (host past' (.dispatch kind target input (some seconds)))
      = (r.limited seconds).judge kind target (host past (.dispatch kind target input none)) :=
        congrArg _ (settles hpast kind target input)
    _ = _ := r.judge_limited kind target _
    _ = _ := by rw [judged]

/-- With a limit of time the attempts go on as without one. -/
theorem attempts_limited (settles : host.SettlesWithin seconds)
    (h : Attempted r.patient host retry kind target input left n past made)
    (hpast : List.Forall₂ (Request.Limited seconds) past past') :
    List.Forall₂ (Request.Limited seconds) made.1
        (attempts (r.limited seconds) host retry kind target input left n past').1 ∧
      (attempts (r.limited seconds) host retry kind target input left n past').2 =
        made.2.map (Dispatched.limited seconds kind target) := by
  have hcall : Request.Limited seconds (.dispatch kind target input none)
      (.dispatch kind target input (some seconds)) := .dispatch kind target input
  -- along the attempts of the patient run; those with the limit are made after the same requests
  induction h generalizing past' with
  | withheld unknown =>
    rw [attempts, unknown]
    exact ⟨.nil, rfl⟩
  | @last left n past pause response error waited judged final =>
    have hpause : List.Forall₂ (Request.Limited seconds) pause pause :=
      Request.limited_of_quiet fun _ => isDispatch_wait waited
    have hjudged := judge_answer_limited settles (List.rel_append hpast hpause) judged
    have hmade : List.Forall₂ (Request.Limited seconds) (pause ++ [.dispatch kind target input none])
        (pause ++ [.dispatch kind target input (some seconds)]) :=
      List.rel_append hpause (.cons hcall .nil)
    rw [attempts, waited]
    simp only [Runner.limited] at hjudged ⊢
    simp only [hjudged]
    cases error with
    | none => exact ⟨hmade, rfl⟩
    | some error =>
      obtain rfl : left = 0 := final.resolve_left (by simp)
      exact ⟨hmade, rfl⟩
  | @more left n past pause response error rest waited judged later ih =>
    have hpause : List.Forall₂ (Request.Limited seconds) pause pause :=
      Request.limited_of_quiet fun _ => isDispatch_wait waited
    have hjudged := judge_answer_limited settles (List.rel_append hpast hpause) judged
    obtain ⟨hrequests, hvalue⟩ := ih (List.rel_append (List.rel_append hpast hpause) (.cons hcall .nil))
    rw [attempts, waited]
    simp only [Runner.limited] at hjudged ⊢
    simp only [hjudged]
    exact ⟨List.rel_append hpause (.cons hcall hrequests), hvalue⟩

theorem dispatched_limited (settles : host.SettlesWithin seconds) (s : Step) (target : String) (input : Json)
    (hpast : List.Forall₂ (Request.Limited seconds) past past') :
    ∃ made', List.Forall₂ (Request.Limited seconds) (dispatched r.patient host s target input past).1 made' ∧
      dispatched (r.limited seconds) host s target input past' =
        (made', (dispatched r.patient host s target input past).2.map
          (Dispatched.limited seconds s.kind target)) := by
  obtain ⟨hmade, hvalue⟩ :=
    attempts_limited settles (attempted_dispatched r.patient host s target input past) hpast
  exact ⟨_, hmade, Prod.ext rfl hvalue⟩

end Sequential

/-! ## One step -/

/-- The result of a step in a patient run, by the verdicts on its dispatches, and the result in a run with a limit of
time. If the last answer was a timeout of the host's own, the words for the limit come in the place of its words. A
result that tells of no attempts is not about the answers. -/
inductive StepResult.Limited (seconds : Float) (verdicts : List (Option AttemptError)) :
    StepResult → StepResult → Prop
  | same {result : StepResult}
      (other : result.attempts = 0 ∨ ∀ f, verdicts.getLast? = some (some (.fault f)) → f.isTimeout = false) :
      Limited seconds verdicts result result
  | timedOut {result : StepResult} {f : Fault} (target : String) (attempted : result.attempts ≠ 0)
      (last : verdicts.getLast? = some (some (.fault f))) (timeout : f.isTimeout = true)
      (error : result.error = some f.message) :
      Limited seconds verdicts result
        { result with error := some (AttemptError.timedOut result.kind target seconds).message }

/-- Whether a step fails does not hang on the words. -/
theorem StepResult.Limited.status_eq {verdicts : List (Option AttemptError)} {patient limited : StepResult}
    (h : patient.Limited seconds verdicts limited) : limited.status = patient.status := by
  cases h <;> rfl

/-- Where the last answer was no timeout of the host's own there is no difference. -/
theorem StepResult.Limited.eq_of_forall {verdicts : List (Option AttemptError)} {patient limited : StepResult}
    (h : patient.Limited seconds verdicts limited)
    (quiet : ∀ f, verdicts.getLast? = some (some (.fault f)) → f.isTimeout = false) : limited = patient := by
  cases h with
  | same => rfl
  | timedOut target attempted last timeout error => simp [quiet _ last] at timeout

/-- One step of a patient run, and the step in a run with a limit of time. -/
structure StepRun.Limited (seconds : Float) (verdicts : List (Option AttemptError))
    (patient limited : StepRun) : Prop where
  requests : List.Forall₂ (Request.Limited seconds) patient.requests limited.requests
  after : limited.after = patient.after
  result : patient.result.Limited seconds verdicts limited.result

namespace Sequential

variable {r : Runner} {past past' : List Request}

theorem concluded_limited (s : Step) (target : String) {d : Dispatched} {verdicts : List (Option AttemptError)}
    (attempted : d.attempts ≠ 0) (last : verdicts.getLast? = some d.error) :
    (concluded s d).Limited seconds verdicts (concluded s (d.limited seconds s.kind target)) := by
  rcases d with ⟨response, _ | error, n⟩
  · exact .same (.inr (by simp [last]))
  · rcases error.limited_cases seconds s.kind target with ⟨hother, hsame⟩ | ⟨f, timeout, rfl, htimedOut⟩
    · simp only [Dispatched.limited, Option.map_some, hsame]
      exact .same (.inr (by simpa [last] using hother))
    · simp only [Dispatched.limited, Option.map_some, htimedOut]
      exact .timedOut target attempted last timeout rfl

/-- What a task leaves behind hangs on whether it succeeded, and not on what was wrong. -/
theorem output?_limited (s : Step) (target : String) (d : Dispatched) :
    output? (r.limited seconds) s (concluded s (d.limited seconds s.kind target)) =
      output? r.patient s (concluded s d) := by
  rcases d with ⟨response, _ | error, n⟩ <;> rfl

@[simp] theorem delay_patient (s : Step) : delay r.patient s = delay r s := rfl

@[simp] theorem delay_limited (s : Step) : delay (r.limited seconds) s = delay r s := rfl

/-- With a limit of time a step does what it does without one. -/
theorem step_limited (settles : host.SettlesWithin seconds) (s : Step) (store : Store)
    (hpast : List.Forall₂ (Request.Limited seconds) past past') :
    (step r.patient host s store past).Limited seconds
      (verdicts r.patient host past (step r.patient host s store past).requests)
      (step (r.limited seconds) host s store past') := by
  have hdelay : List.Forall₂ (Request.Limited seconds) (delay r s) (delay r s) :=
    Request.limited_of_quiet fun _ => isDispatch_delay r
  by_cases hc : (Condition.holdsFor store s.condition).value = false
  · simp only [step, if_pos hc]
    exact ⟨.nil, rfl, .same (.inl rfl)⟩
  · cases ht : Runner.target? s with
    | none =>
      simp only [step, if_neg hc, ht]
      exact ⟨hdelay, rfl, .same (.inl rfl)⟩
    | some target =>
      cases hi : (Json.resolve store (.record s.input)).outcome.value with
      | error error =>
        simp only [step, if_neg hc, ht, hi]
        exact ⟨hdelay, rfl, .same (.inl rfl)⟩
      | ok input =>
        obtain ⟨made', hmade, hlimited⟩ :=
          dispatched_limited (r := r) settles s target input (List.rel_append hpast hdelay)
        have hattempted := attempted_dispatched r.patient host s target input (past ++ delay r s)
        rcases hd : dispatched r.patient host s target input (past ++ delay r s) with ⟨made, error | d⟩ <;>
          rw [hd] at hmade hlimited hattempted <;>
          simp only [step, if_neg hc, ht, hi, delay_patient, delay_limited, hd, hlimited, Except.map]
        · -- the attempts were broken off, and the result tells of none
          exact ⟨List.rel_append hdelay hmade, rfl, .same (.inl rfl)⟩
        · obtain ⟨failures, hverdicts, hattempts, -⟩ := verdicts_of_attempted_ok hattempted rfl
          have hquiet : verdicts r.patient host past (delay r s) = [] :=
            verdicts_of_quiet r.patient host (fun _ => isDispatch_delay r) past
          refine ⟨List.rel_append hdelay hmade, by rw [output?_limited], concluded_limited s target ?_ ?_⟩
          · omega
          · rw [verdicts_append, hquiet, List.nil_append, hverdicts, List.getLast?_concat]

/-! ## All steps of a run -/

/-- Steps, each with the verdicts on its dispatches. -/
def judged (r : Runner) (host : Host) : (past : List Request) → List StepRun →
    List (StepRun × List (Option AttemptError))
  | _, [] => []
  | past, run :: runs =>
    (run, verdicts r host past run.requests) :: judged r host (past ++ run.requests) runs

theorem map_fst_judged (r : Runner) (host : Host) (past : List Request) (runs : List StepRun) :
    (judged r host past runs).map Prod.fst = runs := by
  induction runs generalizing past with
  | nil => rfl
  | cons run runs ih => rw [judged, List.map_cons, ih]

theorem map_result_judged (r : Runner) (host : Host) (past : List Request) (runs : List StepRun) :
    (judged r host past runs).map (fun told => told.1.result) = runs.map StepRun.result :=
  calc (judged r host past runs).map (fun told => told.1.result)
      = ((judged r host past runs).map Prod.fst).map StepRun.result := (List.map_map ..).symm
    _ = _ := by rw [map_fst_judged]

/-- With a limit of time all steps do what they do without one. -/
theorem steps_limited (settles : host.SettlesWithin seconds) (ss : List Step) (store : Store)
    (hpast : List.Forall₂ (Request.Limited seconds) past past') :
    List.Forall₂ (fun told run => told.1.Limited seconds told.2 run)
      (judged r.patient host past (steps r.patient host ss store past))
      (steps (r.limited seconds) host ss store past') := by
  induction ss generalizing store past past' with
  | nil => exact .nil
  | cons s rest ih =>
    have hstep := step_limited (r := r) settles s store hpast
    rw [steps, steps, hstep.after, judged]
    exact .cons hstep (ih _ (List.rel_append hpast hstep.requests))

section

variable {told : List (StepRun × List (Option AttemptError))} {limited : List StepRun}
  (h : List.Forall₂ (fun told run => told.1.Limited seconds told.2 run) told limited)

include h

theorem finalStore_limited (store : Store) :
    finalStore store limited = finalStore store (told.map Prod.fst) := by
  induction h generalizing store with
  | nil => rfl
  | cons hrun _ ih => rw [List.map_cons, finalStore, finalStore, hrun.after, ih]

theorem requests_limited :
    List.Forall₂ (Request.Limited seconds) ((told.map Prod.fst).flatMap StepRun.requests)
      (limited.flatMap StepRun.requests) := by
  rw [List.flatMap_map]
  exact List.rel_flatMap h fun _ _ hrun => hrun.requests

theorem results_limited :
    List.Forall₂ (fun told result => told.1.result.Limited seconds told.2 result) told
      (limited.map StepRun.result) :=
  List.forall₂_map_right_iff.2 (h.imp fun _ _ hrun => hrun.result)

theorem success_limited :
    (limited.all fun run => run.result.status != .failed) =
      (told.map Prod.fst).all fun run => run.result.status != .failed := by
  induction h with
  | nil => rfl
  | cons hrun _ ih => rw [List.map_cons, List.all_cons, List.all_cons, ih, hrun.result.status_eq]

end

theorem limited_opening : List.Forall₂ (Request.Limited seconds) opening opening :=
  .cons .context (.cons .knowledge .nil)

theorem stepRuns_limited (settles : host.SettlesWithin seconds) (w : Workflow) :
    List.Forall₂ (fun told run => told.1.Limited seconds told.2 run)
      (judged r.patient host opening (stepRuns r.patient host w)) (stepRuns (r.limited seconds) host w) :=
  steps_limited settles w.steps (initialStore r.patient host) limited_opening

/-- With a limit of time the result of a run is what it is without one, up to the words for what was wrong. -/
theorem result_limited (settles : host.SettlesWithin seconds) (w : Workflow) :
    result (r.limited seconds) host w =
      { result r.patient host w with steps := (result (r.limited seconds) host w).steps } := by
  have hruns := stepRuns_limited (r := r) settles w
  have hpoints := finalStore_limited hruns (initialStore r.patient host)
  have hsuccess := success_limited hruns
  rw [map_fst_judged] at hpoints hsuccess
  show Result.mk _ _ _ (finalStore (initialStore r.patient host) (stepRuns (r.limited seconds) host w)).points _ = _
  rw [hpoints, hsuccess]
  rfl

/-- Without timeouts of the host's own at the end of a step there is no difference. -/
theorem result_limited_of_forall (settles : host.SettlesWithin seconds) (w : Workflow)
    (quiet : ∀ told ∈ judged r.patient host opening (stepRuns r.patient host w), ∀ f,
      told.2.getLast? = some (some (.fault f)) → f.isTimeout = false) :
    result (r.limited seconds) host w = result r.patient host w := by
  have hresults := results_limited (stepRuns_limited (r := r) settles w)
  have hsame : List.Forall₂ (fun told result => told.1.result = result)
      (judged r.patient host opening (stepRuns r.patient host w))
      ((stepRuns (r.limited seconds) host w).map StepRun.result) :=
    ((List.forall₂_and_left _ _).2 ⟨quiet, hresults⟩).imp fun _ _ h => (h.2.eq_of_forall h.1).symm
  have hsteps : (judged r.patient host opening (stepRuns r.patient host w)).map (fun told => told.1.result) =
      (stepRuns (r.limited seconds) host w).map StepRun.result :=
    List.forall₂_eq_eq_eq ▸ List.forall₂_map_left_iff.2 hsame
  rw [map_result_judged] at hsteps
  rw [result_limited settles]
  show Result.mk _ _ ((stepRuns (r.limited seconds) host w).map StepRun.result) _ _ = _
  rw [← hsteps]
  rfl

end Sequential

/-- **A limit of time changes nothing for dispatches that settle within it**, but for the words for a timeout that the
host itself reports. A run with the limit makes the same requests as the patient run and comes to the same result: the
same data points, and steps with the same statuses, responses and numbers of attempts. Their errors are the same, too,
unless the last answer to a step was a timeout of the host's own, which is then reported in the words for the limit. -/
theorem Runner.run_limited (settles : host.SettlesWithin seconds) (r : Runner) (w : Workflow)
    (registry : Registry) :
    ((registry.tryBegin (r.runId w)).1 = false →
      ((r.limited seconds).run w).perform host registry [] = (r.patient.run w).perform host registry []) ∧
    ((registry.tryBegin (r.runId w)).1 = true →
      ∃ (patient limited : Result) (calls calls' : List Request),
        (r.patient.run w).perform host registry [] = ⟨.ok patient, registry, calls⟩ ∧
        ((r.limited seconds).run w).perform host registry [] = ⟨.ok limited, registry, calls'⟩ ∧
        List.Forall₂ (Request.Limited seconds) calls calls' ∧
        limited = { patient with steps := limited.steps } ∧
        List.Forall₂ (fun told result => told.1.result.Limited seconds told.2 result)
          (Sequential.judged r.patient host Sequential.opening (Sequential.stepRuns r.patient host w))
          limited.steps ∧
        ((∀ told ∈ Sequential.judged r.patient host Sequential.opening (Sequential.stepRuns r.patient host w),
            ∀ f, told.2.getLast? = some (some (.fault f)) → f.isTimeout = false) →
          limited = patient)) := by
  refine ⟨fun rejected => ?_, fun accepted => ?_⟩
  · have taken : r.runId w ∈ registry.running := by
      by_contra free
      simp [(Registry.tryBegin_of_notMem free).1] at rejected
    exact (perform_run_of_mem (r.limited seconds) host taken).trans (perform_run_of_mem r.patient host taken).symm
  · have free := Registry.notMem_of_tryBegin accepted
    have hruns := Sequential.stepRuns_limited (r := r) settles w
    have hrequests := Sequential.requests_limited hruns
    rw [Sequential.map_fst_judged] at hrequests
    exact ⟨_, _, _, _, perform_run r.patient host free, perform_run (r.limited seconds) host free,
      List.rel_append Sequential.limited_opening hrequests, Sequential.result_limited settles w,
      Sequential.results_limited hruns, Sequential.result_limited_of_forall settles w⟩

/-- A task whose host is down and one that succeeds come to the same in five seconds as they do without a limit. -/
theorem Runner.run_limited_settled :
    let host : Host := Host.steady fun
      | .context => .ok (.items [])
      | .knowledge => .ok []
      | .sleep _ => ()
      | .dispatch _ target _ _ =>
        if target = "mail" then .error ⟨"Down", "no route", false⟩ else .ok (.ready { success := true })
    let w : Workflow :=
      { id := some "w", name := "", createdAt := 0, updatedAt := 0, steps :=
          [{ id := "a", kind := .task, taskId := some "mail" },
            { id := "b", kind := .task, taskId := some "summary" }] }
    let r : Runner := { now := 0 }
    host.SettlesWithin 5.0 ∧ (Registry.empty.tryBegin (r.runId w)).1 = true ∧
      ∃ result calls,
        ((r.limited 5.0).run w).perform host Registry.empty [] = ⟨.ok result, Registry.empty, calls⟩ ∧
        result.steps.map StepResult.error = [some "no route", none] := by
  intro host w r
  have settles : host.SettlesWithin 5.0 := fun _ _ _ _ _ _ => rfl
  have accepted : (Registry.empty.tryBegin (r.runId w)).1 = true := rfl
  have verdicts :
      (Sequential.judged r.patient host Sequential.opening (Sequential.stepRuns r.patient host w)).map Prod.snd =
        [[some (.fault ⟨"Down", "no route", false⟩)], [none]] := rfl
  obtain ⟨-, hruns⟩ := Runner.run_limited settles r w Registry.empty
  obtain ⟨patient, limited, calls, calls', hpatient, hlimited, -, -, -, hsame⟩ := hruns accepted
  have quiet : limited = patient := by
    refine hsame fun told htold f hlast => ?_
    have hmem := verdicts ▸ List.mem_map_of_mem htold
    simp only [List.mem_cons, List.not_mem_nil, or_false] at hmem
    rcases hmem with hmem | hmem <;> rw [hmem] at hlast <;> cases hlast
    rfl
  have hrun := perform_run r.patient host (Registry.notMem_of_tryBegin accepted)
  obtain ⟨hresult, -, -⟩ := Performance.mk.inj (hpatient.symm.trans hrun)
  refine ⟨settles, accepted, limited, calls', hlimited, ?_⟩
  rw [quiet, Except.ok.inj hresult]
  rfl

/-- A timeout of the host's own is reported as that of the limit, and its words are lost. -/
theorem Runner.run_limited_renamed :
    let host : Host := Host.steady fun
      | .context => .ok (.items [])
      | .knowledge => .ok []
      | .sleep _ => ()
      | .dispatch _ _ _ _ => .error ⟨"TimeoutError", "upstream was slow", true⟩
    let w : Workflow :=
      { id := some "w", name := "", createdAt := 0, updatedAt := 0, steps :=
          [{ id := "a", kind := .task, taskId := some "mail" }] }
    let r : Runner := { now := 0 }
    host.SettlesWithin 5.0 ∧
      ∃ patient limited : Result,
        ((r.patient.run w).perform host Registry.empty []).value = .ok patient ∧
        (((r.limited 5.0).run w).perform host Registry.empty []).value = .ok limited ∧
        patient.steps.map StepResult.error = [some "upstream was slow"] ∧
        limited.steps.map StepResult.error ≠ [some "upstream was slow"] := by
  intro host w r
  refine ⟨fun _ _ _ _ _ _ => rfl, _, _, by rw [perform_run r.patient host (by simp)],
    by rw [perform_run (r.limited 5.0) host (by simp)], rfl, ?_⟩
  have herrors : (Sequential.result (r.limited 5.0) host w).steps.map StepResult.error =
      [some (AttemptError.timedOut .task "mail" 5.0).message] := rfl
  rw [herrors]
  intro h
  have hmessage : (AttemptError.timedOut .task "mail" 5.0).message = "upstream was slow" := by simpa using h
  have hhead := congrArg (fun text => text.toList.head?) hmessage
  -- the words for the limit start with the kind of the step
  simp only [AttemptError.message, Step.Kind.name, String.toList_append, List.head?_append] at hhead
  exact absurd hhead (by decide)

end Runbook.Run
