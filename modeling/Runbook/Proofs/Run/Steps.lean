import Mathlib.Data.List.Forall2
import Runbook.Proofs.Run.Sequential

/-!
# What each step of a run does

* `StepRun.Follows` — what holds of one step: it is skipped exactly if its condition is false, and then asks
  nothing; otherwise it is dispatched with its input resolved against the data points before it, unless it
  has no target or its input cannot be resolved, when it fails without a dispatch; and it fails exactly if
  it has an error.
* `Chained` — each step finds the data points that the one before it left.
* `follows_step` — every step of the account is like that, by what can become of its target, its input and
  its attempts; `forall₂_steps` — so are all steps of a run, one for one and in order.
* `Runner.run_follows` — every accepted run comes to the result of the account, before every host.
-/

namespace Runbook.Run

/-- What one step of a run does, by the data points before it. -/
structure StepRun.Follows (r : Runner) (s : Step) (run : StepRun) : Prop where
  stepId : run.result.stepId = s.id
  kind : run.result.kind = s.kind
  /-- A step is skipped exactly if its condition is false. -/
  skipped_iff :
    run.result.status = .skipped ↔ (Condition.holdsFor run.before s.condition).value = false
  /-- A step that is skipped asks nothing: it makes no wait and no dispatch. -/
  quiet : run.result.status = .skipped → run.requests = []
  /-- A step that is not skipped is dispatched with its resolved input, and with no other. -/
  dispatched : run.result.status ≠ .skipped → ∀ target input, Runner.target? s = some target →
    (Json.resolve run.before (.record s.input)).outcome.value = .ok input →
    .dispatch s.kind target input r.timeout ∈ run.requests ∧
      ∀ request ∈ run.requests, request.isDispatch = true →
        request = .dispatch s.kind target input r.timeout
  /-- A step without a target, or with an input that cannot be resolved, fails without a dispatch. -/
  withheld : run.result.status ≠ .skipped →
    (Runner.target? s = none ∨
      ∃ error, (Json.resolve run.before (.record s.input)).outcome.value = .error error) →
    run.result.status = .failed ∧ ∀ request ∈ run.requests, request.isDispatch = false
  failed_iff : run.result.status = .failed ↔ run.result.error.isSome = true

namespace Sequential

/-- Does each step find the data points that the one before it left? -/
def Chained : (start : Store) → List StepRun → Prop
  | _, [] => True
  | start, run :: runs => run.before = start ∧ Chained run.after runs

variable (r : Runner) (host : Host)

/-! ## Requests of one step -/

theorem isDispatch_delay {s : Step} {request : Request} (h : request ∈ delay r s) :
    request.isDispatch = false := by
  unfold delay at h
  split at h
  · simp at h
  · split at h
    · simp at h
    · split at h <;> · rw [List.mem_singleton] at h; subst h; rfl

theorem isDispatch_wait {retry : Retry} {n : Nat} {pause : List Request}
    (hw : wait retry n = .ok pause) {request : Request} (h : request ∈ pause) :
    request.isDispatch = false := by
  unfold wait at hw
  split at hw
  · cases hw; simp at h
  · split at hw
    · cases hw
    · cases hw
      split at h
      · rw [List.mem_singleton] at h; subst h; rfl
      · simp at h

section

variable (retry : Retry) (kind : Step.Kind) (target : String) (input : Json)

/-- How the attempts from the `n`th on go, with at most `left` after it: the wait before one cannot be told,
or it is the last one, or there are more. -/
inductive Attempted : (left n : Nat) → (past : List Request) →
    List Request × Except StepError Dispatched → Prop where
  | withheld {left n : Nat} {past : List Request} {error : StepError}
      (unknown : wait retry n = .error error) : Attempted left n past ([], .error error)
  | last {left n : Nat} {past pause : List Request} {response : Option Response}
      {error : Option AttemptError} (waited : wait retry n = .ok pause)
      (judged : r.judge kind target
        (host (past ++ pause) (.dispatch kind target input r.timeout)) = (response, error))
      (final : error = none ∨ left = 0) :
      Attempted left n past
        (pause ++ [.dispatch kind target input r.timeout], .ok ⟨response, error, n⟩)
  | more {left n : Nat} {past pause : List Request} {response : Option Response} {error : AttemptError}
      {rest : List Request × Except StepError Dispatched} (waited : wait retry n = .ok pause)
      (judged : r.judge kind target
        (host (past ++ pause) (.dispatch kind target input r.timeout)) = (response, some error))
      (later : Attempted left (n + 1) (past ++ pause ++ [.dispatch kind target input r.timeout]) rest) :
      Attempted (left + 1) n past (pause ++ .dispatch kind target input r.timeout :: rest.1, rest.2)

theorem attempted (left n : Nat) (past : List Request) :
    Attempted r host retry kind target input left n past
      (attempts r host retry kind target input left n past) := by
  induction left generalizing n past with
  | zero =>
    rw [attempts]
    cases hw : wait retry n with
    | error error => exact .withheld hw
    | ok pause =>
      rcases hj : r.judge kind target (host (past ++ pause) (.dispatch kind target input r.timeout))
        with ⟨response, none | error⟩
      · simp only [hj]
        exact .last hw hj (.inl rfl)
      · simp only [hj]
        exact .last hw hj (.inr rfl)
  | succ left ih =>
    rw [attempts]
    cases hw : wait retry n with
    | error error => exact .withheld hw
    | ok pause =>
      rcases hj : r.judge kind target (host (past ++ pause) (.dispatch kind target input r.timeout))
        with ⟨response, none | error⟩
      · simp only [hj]
        exact .last hw hj (.inl rfl)
      · simp only [hj]
        exact .more hw hj (ih _ _)

end

section

variable {retry : Retry} {kind : Step.Kind} {target : String} {input : Json}
  {left n : Nat} {past : List Request} {made : List Request × Except StepError Dispatched}

/-- All dispatches of a step are the same. -/
theorem eq_of_mem_attempted (h : Attempted r host retry kind target input left n past made)
    {request : Request} (hd : request.isDispatch = true) (hmem : request ∈ made.1) :
    request = .dispatch kind target input r.timeout := by
  induction h with
  | withheld unknown => cases hmem
  | last waited judged final =>
    rcases List.mem_append.1 hmem with hmem | hmem
    · simp [isDispatch_wait waited hmem] at hd
    · exact List.mem_singleton.1 hmem
  | more waited judged later ih =>
    rcases List.mem_append.1 hmem with hmem | hmem
    · simp [isDispatch_wait waited hmem] at hd
    · rcases List.mem_cons.1 hmem with hmem | hmem
      · exact hmem
      · exact ih hmem

/-- The first attempt at a step is made: nothing is waited for before it. -/
theorem mem_of_attempted_one (h : Attempted r host retry kind target input left 1 past made) :
    .dispatch kind target input r.timeout ∈ made.1 := by
  cases h with
  | withheld unknown => cases unknown
  | last waited judged final => exact List.mem_append_right _ List.mem_cons_self
  | more waited judged later => exact List.mem_append_right _ List.mem_cons_self

end

theorem attempted_dispatched (s : Step) (target : String) (input : Json) (past : List Request) :
    Attempted r host (s.retry.getD {}) s.kind target input ((s.retry.getD {}).maxAttempts - 1).toNat 1
      past (dispatched r host s target input past) :=
  attempted r host _ s.kind target input _ 1 past

/-- What a step asks once its input is resolved: its delay, waits, and one dispatch again and again. -/
theorem dispatches_of_resolved (s : Step) (target : String) (input : Json) (past : List Request) :
    .dispatch s.kind target input r.timeout ∈
        delay r s ++ (dispatched r host s target input past).1 ∧
      ∀ request ∈ delay r s ++ (dispatched r host s target input past).1,
        request.isDispatch = true → request = .dispatch s.kind target input r.timeout := by
  have hmade := attempted_dispatched r host s target input past
  refine ⟨List.mem_append_right _ (mem_of_attempted_one r host hmade), fun request h hd => ?_⟩
  rcases List.mem_append.1 h with h | h
  · simp [isDispatch_delay r h] at hd
  · exact eq_of_mem_attempted r host hmade hd h

/-! ## One step -/

theorem status_concluded_eq_failed {s : Step} {d : Dispatched} :
    (concluded s d).status = .failed ↔ (concluded s d).error.isSome = true := by
  rcases d with ⟨response, none | error, n⟩ <;> simp [concluded]

theorem status_concluded_ne_skipped {s : Step} {d : Dispatched} :
    (concluded s d).status ≠ .skipped := by
  rcases d with ⟨response, none | error, n⟩ <;> simp [concluded]

/-- **Every step does what it should**, by the data points that it finds. -/
theorem follows_step (s : Step) (store : Store) (past : List Request) :
    (step r host s store past).Follows r s := by
  cases hc : (Condition.holdsFor store s.condition).value with
  | false =>
    rw [step, if_pos hc]
    exact ⟨rfl, rfl, by simp [hc], fun _ => rfl, by simp, by simp, by simp⟩
  | true =>
    have hdelay : ∀ request ∈ delay r s, request.isDispatch = false := fun _ => isDispatch_delay r
    have hne : (Condition.holdsFor store s.condition).value ≠ false := by simp [hc]
    cases ht : Runner.target? s with
    | none =>
      simp only [step, if_neg hne, ht]
      exact ⟨rfl, rfl, by simp [failed, hc], by simp [failed], fun _ _ _ h => by simp [ht] at h,
        fun _ _ => ⟨rfl, hdelay⟩, by simp [failed]⟩
    | some target =>
      cases hi : (Json.resolve store (.record s.input)).outcome.value with
      | error error =>
        simp only [step, if_neg hne, ht, hi]
        exact ⟨rfl, rfl, by simp [failed, hc], by simp [failed],
          fun _ _ _ _ h => by simp [hi] at h, fun _ _ => ⟨rfl, hdelay⟩, by simp [failed]⟩
      | ok input =>
        have hsent : ∀ target' input', Runner.target? s = some target' →
            (Json.resolve store (.record s.input)).outcome.value = .ok input' →
            .dispatch s.kind target' input' r.timeout ∈
                delay r s ++ (dispatched r host s target input (past ++ delay r s)).1 ∧
              ∀ request ∈ delay r s ++ (dispatched r host s target input (past ++ delay r s)).1,
                request.isDispatch = true →
                  request = .dispatch s.kind target' input' r.timeout := by
          intro target' input' ht' hi'
          obtain rfl : target = target' := Option.some.inj (ht.symm.trans ht')
          obtain rfl : input = input' := Except.ok.inj (hi.symm.trans hi')
          exact dispatches_of_resolved r host s target input _
        have hready : ¬ (Runner.target? s = none ∨
            ∃ error, (Json.resolve store (.record s.input)).outcome.value = .error error) := by
          rintro (h | ⟨error, h⟩) <;> simp [ht, hi] at h
        rcases hd : dispatched r host s target input (past ++ delay r s) with ⟨made, error | d⟩ <;>
          simp only [step, if_neg hne, ht, hi, hd] <;> rw [hd] at hsent
        · exact ⟨rfl, rfl, by simp [failed, hc], by simp [failed], fun _ => hsent,
            fun _ h => absurd h hready, by simp [failed]⟩
        · exact ⟨rfl, rfl, by simp [status_concluded_ne_skipped, hc],
            fun h => absurd h status_concluded_ne_skipped, fun _ => hsent,
            fun _ h => absurd h hready, status_concluded_eq_failed⟩

/-! ## All steps of a run -/

/-- Every step of a run does what it should, one for one and in order. -/
theorem forall₂_steps (ss : List Step) (store : Store) (past : List Request) :
    List.Forall₂ (fun s run => run.Follows r s) ss (steps r host ss store past) := by
  induction ss generalizing store past with
  | nil => exact .nil
  | cons s rest ih => exact .cons (follows_step r host s store past) (ih _ _)

theorem before_step (s : Step) (store : Store) (past : List Request) :
    (step r host s store past).before = store := by
  unfold step
  split
  · rfl
  · split
    · rfl
    · split
      · rfl
      · split <;> rfl

theorem chained_steps (ss : List Step) (store : Store) (past : List Request) :
    Chained store (steps r host ss store past) := by
  induction ss generalizing store past with
  | nil => trivial
  | cons s rest ih => exact ⟨before_step r host s store past, ih _ _⟩

end Sequential

/-- What an accepted run comes to, by what its steps did. -/
structure Result.Follows (r : Runner) (w : Workflow) (start : Store) (runs : List StepRun)
    (result : Result) : Prop where
  workflowId : result.workflowId = r.runId w
  steps : result.steps = runs.map StepRun.result
  /-- There is one result for each step, in the order of the steps. -/
  labels : (result.steps.map fun step => (step.stepId, step.kind)) =
    w.steps.map fun s => (s.id, s.kind)
  each : List.Forall₂ (fun s run => run.Follows r s) w.steps runs
  chained : Sequential.Chained start runs
  dataPoints : result.dataPoints = (Sequential.finalStore start runs).points
  error : result.error = none
  success_iff : result.success = true ↔ ∀ step ∈ result.steps, step.status ≠ .failed

theorem labels_of_forall₂ {r : Runner} {ss : List Step} {runs : List StepRun}
    (h : List.Forall₂ (fun s run => run.Follows r s) ss runs) :
    ((runs.map StepRun.result).map fun step => (step.stepId, step.kind)) =
      ss.map fun s => (s.id, s.kind) := by
  induction h with
  | nil => rfl
  | cons h _ ih => rw [List.map_cons, List.map_cons, List.map_cons, ih, h.stepId, h.kind]

theorem Sequential.result_follows (r : Runner) (host : Host) (w : Workflow) :
    (result r host w).Follows r w (initialStore r host) (stepRuns r host w) where
  workflowId := rfl
  steps := rfl
  labels := labels_of_forall₂ (forall₂_steps r host _ _ _)
  each := forall₂_steps r host _ _ _
  chained := chained_steps r host _ _ _
  dataPoints := rfl
  error := rfl
  success_iff := by simp [result]

/-- The host that answers with a fault whatever it is asked. -/
def Host.down : Host :=
  Host.steady fun
    | .context | .knowledge | .dispatch _ _ _ _ => .error ⟨"Down", "", false⟩
    | .sleep _ => ()

end Runbook.Run
