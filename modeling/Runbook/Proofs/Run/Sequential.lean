import Runbook.Proofs.Run.Performance
import Runbook.Run.Sequential

/-!
# A run goes as it is told step by step

The processes that make up a run, carried out before any host, against their account in
`Runbook.Run.Sequential`:

* `perform_dispatchFrom` — the attempts at a step, by induction on how many are left;
* `perform_runStep` — one step: its result, the data points after it and its requests;
* `perform_runSteps` — all steps, by induction on them with the data points and the requests handed on;
* `perform_run` — a run that is accepted comes to the result of the account, and leaves the registry as it
  found it; `perform_run_of_mem` — one that is not asks nothing.
-/

namespace Runbook.Run.Runner

open Process

variable (r : Runner) (host : Host) (registry : Registry) (past : List Request)

/-! ## Attempts -/

theorem perform_waitFor (retry : Retry) (fields : Fields) {n : Nat} (hn : 1 < n) :
    performT host (waitFor retry fields n) registry past =
      match Sequential.wait retry n with
      | .error error => ⟨.error error, registry, past⟩
      | .ok pause => ⟨.ok (), registry, past ++ pause⟩ := by
  have hn' : ¬ n ≤ 1 := by omega
  simp only [waitFor, Sequential.wait, if_neg hn']
  cases retry.waitBefore n with
  | error error => rfl
  | ok seconds => by_cases hs : 0.0 < seconds <;> simp [hs]

theorem perform_attempt (retry : Retry) (fields : Fields) (kind : Step.Kind) (target : String)
    (input : Json) (n : Nat) :
    performT host (r.attempt retry fields kind target input n) registry past =
      match Sequential.wait retry n with
      | .error error => ⟨.error error, registry, past⟩
      | .ok pause =>
        ⟨.ok (r.judge kind target (host (past ++ pause) (.dispatch kind target input r.timeout))),
          registry, past ++ pause ++ [.dispatch kind target input r.timeout]⟩ := by
  by_cases hn : 1 < n
  · simp only [attempt, if_pos hn, performT_bind, perform_waitFor host registry past retry fields hn]
    cases Sequential.wait retry n <;> simp
  · have hn' : n ≤ 1 := by omega
    simp [attempt, hn, Sequential.wait, hn']

theorem perform_dispatchFrom (retry : Retry) (fields : Fields) (kind : Step.Kind) (target : String)
    (input : Json) (left n : Nat) :
    performT host (r.dispatchFrom retry fields kind target input n left) registry past =
      let made := Sequential.attempts r host retry kind target input left n past
      ⟨made.2, registry, past ++ made.1⟩ := by
  induction left generalizing n past with
  | zero =>
    rw [dispatchFrom, performT_bind, perform_attempt, Sequential.attempts]
    cases Sequential.wait retry n with
    | error error => simp
    | ok pause =>
      rcases hj : r.judge kind target (host (past ++ pause) (.dispatch kind target input r.timeout))
        with ⟨response, none | error⟩ <;> simp [hj]
  | succ left ih =>
    rw [dispatchFrom, performT_bind, perform_attempt, Sequential.attempts]
    cases Sequential.wait retry n with
    | error error => simp
    | ok pause =>
      rcases hj : r.judge kind target (host (past ++ pause) (.dispatch kind target input r.timeout))
        with ⟨response, none | error⟩
      · simp [hj]
      · simp [hj, ih]

theorem perform_dispatchAll (fields : Fields) (s : Step) (target : String) (input : Json) :
    performT host (r.dispatch (s.retry.getD {}) fields s.kind target input) registry past =
      let made := Sequential.dispatched r host s target input past
      ⟨made.2, registry, past ++ made.1⟩ :=
  perform_dispatchFrom r host registry past _ fields s.kind target input _ 1

/-! ## One step -/

theorem perform_waitDelay (fields : Fields) (s : Step) :
    (r.waitDelay fields s.delay).perform host registry past =
      ⟨(), registry, past ++ Sequential.delay r s⟩ := by
  cases hd : s.delay with
  | none => simp [waitDelay, Sequential.delay, hd]
  | some seconds =>
    by_cases hz : seconds == 0.0
    · simp [waitDelay, Sequential.delay, hd, hz, Option.filter, bne]
    · cases hm : r.maxDelay with
      | none => simp [waitDelay, Sequential.delay, hd, hz, hm, Option.filter, bne, clampDelay]
      | some longest =>
        by_cases hl : longest < seconds <;>
          simp [waitDelay, Sequential.delay, hd, hz, hm, hl, Option.filter, bne, clampDelay]

theorem perform_resolveInput (store : Store) (input : Json) :
    performT host (resolveInput store input) registry past =
      match (input.resolve store).outcome.value with
      | .error error => ⟨.error (.unresolved error), registry, past⟩
      | .ok resolved => ⟨.ok resolved, registry, past⟩ := by
  show (ofLogged (input.resolve store).outcome >>= fun outcome =>
    done (outcome.mapError StepError.unresolved)).perform host registry past = _
  rw [perform_bind, perform_ofLogged]
  cases (input.resolve store).outcome.value <;> rfl

theorem perform_addOutput (s : Step) (response : Option Response) (store : Store) :
    (r.addOutput s response store).perform host registry past =
      ⟨match s.kind with
        | .task =>
          store.add (DataPoint.ofTaskOutput r.now s.id ((response.map Response.data).getD .null))
        | .handler => store, registry, past⟩ := by
  cases hk : s.kind <;> simp [addOutput, hk]

theorem perform_conclude (fields : Fields) (s : Step) (d : Dispatched) (store : Store) :
    (r.conclude fields s d store).perform host registry past =
      let result := Sequential.concluded s d
      ⟨(result, store.addAll (Sequential.output? r s result).toList), registry, past⟩ := by
  rcases d with ⟨response, none | error, n⟩
  · cases hk : s.kind <;>
      simp [conclude, perform_addOutput, Sequential.concluded, Sequential.output?, hk, Store.addAll]
  · simp [conclude, Sequential.concluded, Sequential.output?, Store.addAll]

/-- A step whose condition holds: its delay, then its target, its input and its attempts. -/
theorem perform_runReady (fields : Fields) (s : Step) (store : Store) :
    performT host (r.runReady fields s store) registry past =
      match target? s with
      | none =>
        ⟨.ok (Sequential.failed s s!"Step {s.id} has no {s.kind.targetKey}", store), registry,
          past ++ Sequential.delay r s⟩
      | some target =>
        match (Json.resolve store (.record s.input)).outcome.value with
        | .error error => ⟨.error (.unresolved error), registry, past ++ Sequential.delay r s⟩
        | .ok input =>
          match Sequential.dispatched r host s target input (past ++ Sequential.delay r s) with
          | (made, .error error) => ⟨.error error, registry, past ++ Sequential.delay r s ++ made⟩
          | (made, .ok d) =>
            ⟨.ok (Sequential.concluded s d,
                store.addAll (Sequential.output? r s (Sequential.concluded s d)).toList), registry,
              past ++ Sequential.delay r s ++ made⟩ := by
  rw [runReady, performT_bind, performT_lift, perform_waitDelay]
  cases ht : target? s with
  | none => simp [withoutTarget, Sequential.failed]
  | some target =>
    simp only [performT_bind, perform_resolveInput]
    cases hi : (Json.resolve store (.record s.input)).outcome.value with
    | error error => rfl
    | ok input =>
      simp only [perform_dispatchAll]
      rcases Sequential.dispatched r host s target input (past ++ Sequential.delay r s)
        with ⟨made, error | d⟩
      · rfl
      · simp [perform_conclude]

/-- **One step goes as it is told**, whatever comes of its condition, its delay, its input and its
attempts. -/
theorem perform_runStep (id : String) (s : Step) (store : Store) :
    (r.runStep id s store).perform host registry past =
      let run := Sequential.step r host s store past
      ⟨(run.result, run.after), registry, past ++ run.requests⟩ := by
  rw [runStep, perform_bind, perform_ofLogged, Sequential.step]
  cases hc : (Condition.holdsFor store s.condition).value with
  | false => simp [skipped]
  | true =>
    have hready := r.perform_runReady host registry past (stepFields id s) s store
    rw [performT] at hready
    rw [if_pos rfl, perform_bind, hready, if_neg (by simp)]
    cases target? s with
    | none => rfl
    | some target =>
      cases (Json.resolve store (.record s.input)).outcome.value with
      | error error => simp [aborted, Sequential.failed]
      | ok input =>
        rcases hd : Sequential.dispatched r host s target input (past ++ Sequential.delay r s)
          with ⟨made, error | d⟩
        · simp [hd, aborted, Sequential.failed]
        · simp [hd]

theorem perform_runSteps (id : String) (steps : List Step) (store : Store) :
    (r.runSteps id steps store).perform host registry past =
      let runs := Sequential.steps r host steps store past
      ⟨(runs.map StepRun.result, Sequential.finalStore store runs), registry,
        past ++ runs.flatMap StepRun.requests⟩ := by
  induction steps generalizing store past with
  | nil => simp [runSteps, Sequential.steps, Sequential.finalStore]
  | cons s rest ih =>
    simp [runSteps, perform_runStep, ih, Sequential.steps, Sequential.finalStore]

/-! ## One run -/

theorem perform_contextPoints :
    r.contextPoints.perform host registry past =
      ⟨Sequential.contextPoints r.now (host past .context), registry, past ++ [.context]⟩ := by
  cases hc : host past .context with
  | error fault => simp [contextPoints, hc, Sequential.contextPoints]
  | ok gathered =>
    cases hg : (Context.collect r.now gathered).outcome.value with
    | error error => simp [contextPoints, hc, hg, Sequential.contextPoints]
    | ok points => simp [contextPoints, hc, hg, Sequential.contextPoints]

theorem perform_knowledgePoints :
    r.knowledgePoints.perform host registry past =
      ⟨Sequential.knowledgePoints r.now (host past .knowledge), registry, past ++ [.knowledge]⟩ := by
  cases hk : host past .knowledge <;> simp [knowledgePoints, hk, Sequential.knowledgePoints]

theorem perform_initialStore :
    r.initialStore.perform host registry [] =
      ⟨Sequential.initialStore r host, registry, Sequential.opening⟩ := by
  simp [initialStore, perform_contextPoints, perform_knowledgePoints, Sequential.initialStore,
    Sequential.gathered, Sequential.opening]

theorem perform_body (w : Workflow) :
    (r.body (r.runId w) w).perform host registry [] =
      ⟨Sequential.result r host w, registry, Sequential.requests r host w⟩ := by
  simp [body, perform_initialStore, perform_runSteps, Sequential.result, Sequential.requests,
    Sequential.stepRuns, List.any_eq_not_all_not, bne, Function.comp_def]

/-- **An accepted run goes as it is told**, and is in the registry neither before nor after. -/
theorem perform_run {registry : Registry} {w : Workflow} (h : r.runId w ∉ registry.running) :
    (r.run w).perform host registry [] =
      ⟨.ok (Sequential.result r host w), registry, Sequential.requests r host w⟩ := by
  obtain ⟨hentered, -⟩ := Registry.tryBegin_of_notMem h
  have hfinish := Registry.finish_of_mem (Sequential.result r host w).success (Registry.mem_tryBegin h)
  simp [run, hentered, perform_body, hfinish, Registry.forget_tryBegin h]

/-- A run that is not accepted asks nothing and says so. -/
theorem perform_run_of_mem {registry : Registry} {w : Workflow} (h : r.runId w ∈ registry.running) :
    (r.run w).perform host registry [] =
      ⟨.ok
        { workflowId := r.runId w
          success := false
          error := some (AlreadyRunning.mk (r.runId w)).message }, registry, []⟩ := by
  simp [run, rejected, Registry.tryBegin_of_mem h]

end Runbook.Run.Runner
