import Runbook.Proofs.DataPoint.Context
import Runbook.Proofs.DataPoint.Store
import Runbook.Proofs.Run.Steps

/-!
# The data points of a run

* `StepResult.output?` — the data point that a step leaves behind: a task that succeeded leaves the data of
  its response, and no other step leaves anything.
* `StepRun.Answered` — the response of a step that succeeded is what the host replied to its last dispatch.
* `after_step` — a step adds its output, if it has one, to the data points that it found; `finalStore_steps`
  — so the steps add their outputs one after the other.
* `run_accumulates` — a run comes to the data points of the context, those of the knowledge base and the
  outputs of its steps, of which the first with each id is kept.
-/

namespace Runbook.Run

open DataPoint (firstOfEach)

/-- The data point that a step with this result leaves behind. -/
def StepResult.output? (now : Int) (result : StepResult) : Option DataPoint :=
  if result.kind = .task ∧ result.status = .succeeded then
    result.response.map fun response => DataPoint.ofTaskOutput now result.stepId response.data
  else none

/-- If the step succeeded, then its response is the successful reply of the host to its last dispatch. -/
def StepRun.Answered (r : Runner) (host : Host) (past : List Request) (run : StepRun) : Prop :=
  run.result.status = .succeeded → ∃ earlier target input reply response,
    run.requests = earlier ++ [.dispatch run.result.kind target input r.timeout] ∧
      host (past ++ earlier) (.dispatch run.result.kind target input r.timeout) = .ok reply ∧
      reply.response = .ok response ∧ response.success = true ∧ run.result.response = some response

variable (r : Runner) (host : Host)

namespace Sequential

/-! ## Where the response comes from -/

theorem judge_eq_none {kind : Step.Kind} {target : String} {answer : Except Fault Reply}
    {response : Option Response} (h : r.judge kind target answer = (response, none)) :
    ∃ reply answered, answer = .ok reply ∧ reply.response = .ok answered ∧
      answered.success = true ∧ response = some answered := by
  cases answer with
  | error fault =>
    simp only [Runner.judge] at h
    split at h <;> cases h
  | ok reply =>
    cases hr : reply.response with
    | error error => simp [Runner.judge, hr] at h
    | ok answered =>
      by_cases hs : answered.success = true
      · simp only [Runner.judge, hr, hs, if_true, Prod.mk.injEq] at h
        exact ⟨reply, answered, rfl, hr, hs, h.1.symm⟩
      · simp [Runner.judge, hr, hs] at h

/-- Attempts that end without an error end with a dispatch that the host answered well. -/
theorem judge_of_attempted {retry : Retry} {kind : Step.Kind} {target : String} {input : Json}
    {left n : Nat} {past : List Request} {made : List Request × Except StepError Dispatched}
    {d : Dispatched} (h : Attempted r host retry kind target input left n past made)
    (hmade : made.2 = .ok d) (hd : d.error = none) :
    ∃ earlier, made.1 = earlier ++ [.dispatch kind target input r.timeout] ∧
      r.judge kind target (host (past ++ earlier) (.dispatch kind target input r.timeout)) =
        (d.response, none) := by
  induction h with
  | withheld unknown => cases hmade
  | @last left n past pause response error waited judged final =>
    cases hmade
    cases hd
    exact ⟨pause, rfl, judged⟩
  | @more left n past pause response error rest waited judged later ih =>
    obtain ⟨earlier, hrest, hjudge⟩ := ih hmade
    refine ⟨pause ++ .dispatch kind target input r.timeout :: earlier, ?_, ?_⟩
    · simp [hrest]
    · rw [← hjudge]
      simp

/-! ## One step -/

theorem status_concluded_eq_succeeded {s : Step} {d : Dispatched} :
    (concluded s d).status = .succeeded ↔ d.error = none := by
  rcases d with ⟨response, none | error, n⟩ <;> simp [concluded]

theorem step_cases (s : Step) (store : Store) (past : List Request) :
    ((step r host s store past).result.status ≠ .succeeded ∧
        (step r host s store past).after = store) ∨
      ∃ target input made d, dispatched r host s target input (past ++ delay r s) = (made, .ok d) ∧
        step r host s store past =
          ⟨store, delay r s ++ made, concluded s d,
            store.addAll (Sequential.output? r s (concluded s d)).toList⟩ := by
  unfold step
  split
  · exact .inl ⟨by simp, rfl⟩
  · split
    · exact .inl ⟨by simp [failed], rfl⟩
    · split
      · exact .inl ⟨by simp [failed], rfl⟩
      · split
        · exact .inl ⟨by simp [failed], rfl⟩
        · rename_i made d hd
          exact .inr ⟨_, _, made, d, hd, rfl⟩

theorem answered_step (s : Step) (store : Store) (past : List Request) :
    (step r host s store past).Answered r host past := by
  intro hsucceeded
  rcases step_cases r host s store past with ⟨h, -⟩ | ⟨target, input, made, d, hd, hstep⟩
  · exact absurd hsucceeded h
  · rw [hstep] at hsucceeded ⊢
    have herror := status_concluded_eq_succeeded.1 hsucceeded
    have hattempted := attempted_dispatched r host s target input (past ++ delay r s)
    rw [hd] at hattempted
    obtain ⟨earlier, hmade, hjudge⟩ := judge_of_attempted r host hattempted rfl herror
    obtain rfl : made = _ := hmade
    obtain ⟨reply, response, hreply, hresponse, hsuccess, hd'⟩ := judge_eq_none r hjudge
    refine ⟨delay r s ++ earlier, target, input, reply, response, ?_, ?_, hresponse, hsuccess, hd'⟩
    · simp [concluded]
    · rw [List.append_assoc] at hreply
      exact hreply

/-- **A step adds its output** to the data points that it found, and nothing else. -/
theorem after_step (s : Step) (store : Store) (past : List Request) :
    (step r host s store past).after =
      store.addAll ((step r host s store past).result.output? r.now).toList := by
  have hanswered := answered_step r host s store past
  rcases step_cases r host s store past with ⟨h, hafter⟩ | ⟨target, input, made, d, hd, hstep⟩
  · rw [hafter, StepResult.output?, if_neg fun hk => h hk.2]
    rfl
  · rw [hstep] at hanswered ⊢
    by_cases hk : s.kind = .task ∧ (concluded s d).status = .succeeded
    · obtain ⟨_, _, _, _, response, _, _, _, _, hresponse⟩ := hanswered hk.2
      have hd' : d.response = some response := hresponse
      have hk' : (concluded s d).kind = .task ∧ (concluded s d).status = .succeeded := hk
      rw [Sequential.output?, StepResult.output?, if_pos hk, if_pos hk']
      simp [concluded, hd']
    · have hk' : ¬ ((concluded s d).kind = .task ∧ (concluded s d).status = .succeeded) := hk
      rw [Sequential.output?, StepResult.output?, if_neg hk, if_neg hk']

/-! ## All steps of a run -/

theorem answered_steps {ss : List Step} {store : Store} {past : List Request}
    {earlier later : List StepRun} {run : StepRun}
    (h : steps r host ss store past = earlier ++ run :: later) :
    run.Answered r host (past ++ earlier.flatMap StepRun.requests) := by
  induction ss generalizing store past earlier with
  | nil => simp [steps] at h
  | cons s rest ih =>
    rw [steps] at h
    cases earlier with
    | nil =>
      obtain ⟨rfl, -⟩ := List.cons.inj h
      simpa using answered_step r host s store past
    | cons first earlier =>
      obtain ⟨rfl, hrest⟩ := List.cons.inj h
      rw [List.flatMap_cons, ← List.append_assoc]
      exact ih hrest

theorem exists_step_of_mem {ss : List Step} {store : Store} {past : List Request} {run : StepRun}
    (h : run ∈ steps r host ss store past) :
    ∃ s past', run = step r host s run.before past' := by
  induction ss generalizing store past with
  | nil => simp [steps] at h
  | cons s rest ih =>
    rcases List.mem_cons.1 h with rfl | h
    · exact ⟨s, past, by rw [before_step]⟩
    · exact ih h

/-- The steps add their outputs one after the other. -/
theorem finalStore_steps (ss : List Step) (store : Store) (past : List Request) :
    finalStore store (steps r host ss store past) =
      store.addAll ((steps r host ss store past).filterMap fun run => run.result.output? r.now) := by
  induction ss generalizing store past with
  | nil => rfl
  | cons s rest ih =>
    rw [steps, finalStore, ih, after_step, ← Store.addAll_append, List.filterMap_cons]
    cases (step r host s store past).result.output? r.now <;> rfl

theorem contextPoints_eq (now : Int) (answer : Except Fault Context.Gathered) :
    contextPoints now answer = Context.contributed now answer := by
  cases answer with
  | error fault => rfl
  | ok gathered =>
    show _ = if gathered.isClean then gathered.valid now else []
    rw [← Context.value_collect, contextPoints]
    cases (Context.collect now gathered).outcome.value <;> rfl

theorem gathered_eq :
    gathered r host = Context.contributed r.now (host [] .context) ++
      knowledgePoints r.now (host [.context] .knowledge) :=
  congrArg (· ++ _) (contextPoints_eq r.now (host [] .context))

end Sequential

/-! ## One run -/

/-- How the data points of a run come about: from those that the context and the knowledge base have at its
start, step by step. -/
structure Result.Accumulates (r : Runner) (host : Host) (w : Workflow) (start : Store)
    (runs : List StepRun) (result : Result) : Prop where
  steps : result.steps = runs.map StepRun.result
  labels : (result.steps.map fun step => (step.stepId, step.kind)) =
    w.steps.map fun s => (s.id, s.kind)
  initial : start.points = firstOfEach
    (Context.contributed r.now (host [] .context) ++
      Sequential.knowledgePoints r.now (host [.context] .knowledge))
  chained : Sequential.Chained start runs
  /-- What a step adds is its output, unless the id is taken. -/
  adds : ∀ run ∈ runs, run.after.points =
    run.before.points ++
      (run.result.output? r.now).toList.filter fun p => !run.before.contains p.id
  grows : ∀ run ∈ runs, run.before.points <+: run.after.points
  distinct : ∀ run ∈ runs,
    (run.before.points.map DataPoint.id).Nodup ∧ (run.after.points.map DataPoint.id).Nodup
  answered : ∀ earlier run later, runs = earlier ++ run :: later →
    run.Answered r host ([.context, .knowledge] ++ earlier.flatMap StepRun.requests)
  dataPoints : result.dataPoints = firstOfEach
    (Context.contributed r.now (host [] .context) ++
      Sequential.knowledgePoints r.now (host [.context] .knowledge) ++
      result.steps.filterMap (StepResult.output? r.now))

theorem Sequential.result_accumulates (w : Workflow) :
    (result r host w).Accumulates r host w (initialStore r host) (stepRuns r host w) where
  steps := rfl
  labels := (result_follows r host w).labels
  initial := by rw [initialStore, Store.points_addAll_empty, gathered_eq]
  chained := (result_follows r host w).chained
  adds := by
    intro run h
    obtain ⟨s, past, hrun⟩ := exists_step_of_mem r host h
    have hafter := after_step r host s run.before past
    rw [← hrun] at hafter
    rw [hafter, Store.points_addAll]
    cases run.result.output? r.now <;> rfl
  grows := by
    intro run h
    obtain ⟨s, past, hrun⟩ := exists_step_of_mem r host h
    have hafter := after_step r host s run.before past
    rw [← hrun] at hafter
    rw [hafter]
    exact Store.prefix_addAll _ _
  distinct := fun run _ => ⟨run.before.nodup, run.after.nodup⟩
  answered := fun _ _ _ h => answered_steps r host h
  dataPoints := by
    show (finalStore (initialStore r host) (stepRuns r host w)).points = _
    rw [stepRuns, finalStore_steps, ← stepRuns, initialStore, ← Store.addAll_append,
      Store.points_addAll_empty, gathered_eq]
    show _ = firstOfEach (_ ++ List.filterMap _ (List.map _ _))
    rw [List.filterMap_map]
    rfl

/-- **The data points of a run only grow**, and come from three sources in order: the context, the knowledge
base, and the tasks that succeed. Of several data points with one id the first is kept. A context in which
an item is neither a data point nor a record counts as empty. -/
theorem Runner.run_accumulates {r : Runner} {w : Workflow} {registry : Registry} (host : Host)
    (accepted : (registry.tryBegin (r.runId w)).1 = true) :
    ((r.run w).perform host registry []).value = .ok (Sequential.result r host w) ∧
      (Sequential.result r host w).Accumulates r host w (Sequential.initialStore r host)
        (Sequential.stepRuns r host w) := by
  have hfree := Registry.notMem_of_tryBegin accepted
  exact ⟨by rw [perform_run r host hfree], Sequential.result_accumulates r host w⟩

/-- A run with two data points of one id in its context and a task whose output has an id of its own. -/
theorem Runner.run_accumulates_output :
    let point (source : String) : DataPoint := { id := "sel", source := source, timestamp := 0 }
    let host : Host := Host.steady fun
      | .context => .ok (.items [.ready (point "page"), .ready (point "host")])
      | .knowledge => .ok []
      | .sleep _ => ()
      | .dispatch _ _ _ _ => .ok (.ready { success := true, data := .str "done" })
    let w : Workflow :=
      { id := some "w", name := "", steps := [{ id := "a", kind := .task, taskId := some "summary" }],
        createdAt := 0, updatedAt := 0 }
    let r : Runner := { now := 0 }
    (Registry.empty.tryBegin (r.runId w)).1 = true ∧
      ∃ result, ((r.run w).perform host Registry.empty []).value = .ok result ∧
        result.dataPoints = [point "page", DataPoint.ofTaskOutput 0 "a" (.str "done")] := by
  intro point host w r
  have accepted : (Registry.empty.tryBegin (r.runId w)).1 = true := rfl
  obtain ⟨hvalue, haccumulates⟩ := Runner.run_accumulates host accepted
  exact ⟨accepted, _, hvalue, haccumulates.dataPoints.trans rfl⟩

end Runbook.Run
