import Runbook.Proofs.Run.Steps
import Runbook.Proofs.Workflow.Decode

/-!
# The attempts at a step

* `Sequential.verdicts` — what the runner made of the answer to each dispatch among some requests.
* `Sequential.verdicts_of_attempted_ok`, `Sequential.verdicts_of_attempted_error` — the attempts at a step fail up
  to the last one, and there are no more after it because that one succeeded, because none is left, or because the
  wait before the next one cannot be told.
* `StepRun.Accounted` — a step's result tells how often it was dispatched and what was wrong in the end.
* `StepRun.CutShort` — the one way in which it does not: the wait before a further attempt is no number.
* `Runner.run_accounts_attempts` — so it is with every step of a run.
-/

namespace Runbook.Run

namespace Sequential

variable (r : Runner) (host : Host)

/-- What was wrong with the answer to each dispatch among the requests made after those in the past; none if the
answer was good. -/
def verdicts : (past requests : List Request) → List (Option AttemptError)
  | _, [] => []
  | past, .dispatch kind target input timeout :: rest =>
    (r.judge kind target (host past (.dispatch kind target input timeout))).2 ::
      verdicts (past ++ [.dispatch kind target input timeout]) rest
  | past, request :: rest => verdicts (past ++ [request]) rest

theorem verdicts_append (past requests more : List Request) :
    verdicts r host past (requests ++ more) =
      verdicts r host past requests ++ verdicts r host (past ++ requests) more := by
  induction requests generalizing past with
  | nil => simp [verdicts]
  | cons request requests ih => cases request <;> simp [verdicts, ih]

theorem verdicts_of_quiet {requests : List Request}
    (quiet : ∀ request ∈ requests, request.isDispatch = false) (past : List Request) :
    verdicts r host past requests = [] := by
  induction requests generalizing past with
  | nil => rfl
  | cons request requests ih =>
    have hrest := ih (fun other h => quiet other (List.mem_cons_of_mem _ h)) (past ++ [request])
    cases request with
    | dispatch kind target input timeout => cases quiet _ List.mem_cons_self
    | _ => exact hrest

/-- There are as many verdicts as dispatches. -/
theorem length_verdicts (past requests : List Request) :
    (verdicts r host past requests).length = (requests.filter Request.isDispatch).length := by
  induction requests generalizing past with
  | nil => rfl
  | cons request requests ih => cases request <;> simp [verdicts, Request.isDispatch, List.filter_cons, ih]

/-! ## The attempts -/

section

variable {r host} {retry : Retry} {kind : Step.Kind} {target : String} {input : Json}
  {left n : Nat} {past : List Request} {made : List Request × Except StepError Dispatched}

/-- An attempt gives one verdict, before those of the attempts after it. -/
theorem verdicts_of_attempt {pause rest : List Request} {response : Option Response}
    {error : Option AttemptError} (waited : wait retry n = .ok pause)
    (judged : r.judge kind target (host (past ++ pause) (.dispatch kind target input r.timeout)) =
      (response, error)) :
    verdicts r host past (pause ++ .dispatch kind target input r.timeout :: rest) =
      error :: verdicts r host (past ++ pause ++ [.dispatch kind target input r.timeout]) rest := by
  rw [verdicts_append, verdicts_of_quiet r host fun _ => isDispatch_wait waited, verdicts, judged]
  rfl

/-- Attempts that come to an end failed up to the last one; if that one failed too, then none is left. -/
theorem verdicts_of_attempted_ok (h : Attempted r host retry kind target input left n past made)
    {d : Dispatched} (hmade : made.2 = .ok d) :
    ∃ failures : List AttemptError,
      verdicts r host past made.1 = failures.map some ++ [d.error] ∧
        d.attempts = n + failures.length ∧ (d.error ≠ none → failures.length = left) := by
  induction h with
  | withheld unknown => cases hmade
  | @last left n past pause response error waited judged final =>
    obtain rfl := Except.ok.inj hmade
    refine ⟨[], verdicts_of_attempt waited judged, rfl, fun hfailed => ?_⟩
    exact (final.resolve_left hfailed).symm
  | @more left n past pause response error rest waited judged later ih =>
    obtain ⟨failures, hverdicts, hattempts, hleft⟩ := ih hmade
    refine ⟨error :: failures, ?_, ?_, fun hfailed => ?_⟩
    · rw [verdicts_of_attempt waited judged, hverdicts]
      rfl
    · rw [hattempts, List.length_cons]
      omega
    · rw [List.length_cons, hleft hfailed]

/-- Attempts that are broken off failed, all of them, and the wait before the next one cannot be told. -/
theorem verdicts_of_attempted_error (h : Attempted r host retry kind target input left n past made)
    {error : StepError} (hmade : made.2 = .error error) :
    ∃ failures : List AttemptError, verdicts r host past made.1 = failures.map some ∧
      wait retry (n + failures.length) = .error error ∧ failures.length ≤ left := by
  induction h with
  | withheld unknown =>
    obtain rfl := Except.error.inj hmade
    exact ⟨[], rfl, unknown, Nat.zero_le _⟩
  | last waited judged final => cases hmade
  | @more left n past pause response fault rest waited judged later ih =>
    obtain ⟨failures, hverdicts, hwait, hleft⟩ := ih hmade
    refine ⟨fault :: failures, ?_, ?_, Nat.succ_le_succ hleft⟩
    · rw [verdicts_of_attempt waited judged, hverdicts]
      rfl
    · rw [List.length_cons, show n + (failures.length + 1) = n + 1 + failures.length by omega]
      exact hwait

end

theorem wait_eq_error {retry : Retry} {n : Nat} {error : StepError} (h : wait retry n = .error error) :
    1 < n ∧ ∃ cause, retry.waitBefore n = .error cause ∧ error = .waitTooLong cause := by
  unfold wait at h
  split at h
  · cases h
  · rename_i hn
    cases hw : retry.waitBefore n with
    | error cause =>
      rw [hw] at h
      exact ⟨by omega, cause, rfl, (Except.error.inj h).symm⟩
    | ok seconds =>
      rw [hw] at h
      cases h

end Sequential

/-! ## One step -/

/-- The verdicts on the dispatches of a step, and its result, which tells what there is to tell about them. -/
structure StepRun.Accounted (s : Step) (verdicts : List (Option AttemptError)) (run : StepRun) : Prop where
  /-- As many attempts are told as dispatches were made. -/
  attempts : run.result.attempts = verdicts.length
  /-- After a good answer there is no further dispatch. -/
  retried : ∀ verdict ∈ verdicts.dropLast, verdict ≠ none
  /-- A step whose dispatches all fail is dispatched as often as its retry rule allows. -/
  exhausted : verdicts ≠ [] → (∀ verdict ∈ verdicts, verdict ≠ none) →
    (verdicts.length : Int) = (s.retry.getD {}).maxAttempts
  /-- What is told to be wrong is what was wrong with the last dispatch. -/
  error : ∀ verdict, verdicts.getLast? = some verdict →
    run.result.error = verdict.map AttemptError.message

/-- The verdicts on the dispatches of a step, and its result, which tells of none of them: all have failed, there
would be more to make, and the wait before the next one is too long for a number. -/
structure StepRun.CutShort (s : Step) (verdicts : List (Option AttemptError)) (run : StepRun) : Prop where
  attempts : run.result.attempts = 0
  dispatched : verdicts ≠ []
  failed : ∀ verdict ∈ verdicts, verdict ≠ none
  early : (verdicts.length : Int) < (s.retry.getD {}).maxAttempts
  untold : ∃ error, (s.retry.getD {}).waitBefore (verdicts.length + 1) = .error error ∧
    run.result.error = some error.message

/-- Can the wait before every attempt be told? -/
def Retry.IsTold (retry : Retry) : Prop :=
  ∀ n : Nat, 1 < n → (n : Int) ≤ retry.maxAttempts → ∃ seconds, retry.waitBefore n = .ok seconds

theorem StepRun.not_cutShort {s : Step} {verdicts : List (Option AttemptError)} {run : StepRun}
    (told : Retry.IsTold (s.retry.getD {})) : ¬ run.CutShort s verdicts := by
  intro h
  obtain ⟨error, herror, -⟩ := h.untold
  have hpos := List.length_pos_iff.2 h.dispatched
  have hearly := h.early
  obtain ⟨seconds, hseconds⟩ := told (verdicts.length + 1) (by omega) (by omega)
  rw [herror] at hseconds
  cases hseconds

variable (r : Runner) (host : Host)

/-- A step without a dispatch tells of none. -/
theorem StepRun.accounted_nil {s : Step} {run : StepRun} (h : run.result.attempts = 0) :
    run.Accounted s [] :=
  ⟨h, by simp, by simp, by simp⟩

namespace Sequential

theorem accounted_concluded {s : Step} {d : Dispatched} {before after : Store} {requests : List Request}
    {failures : List AttemptError} (allowed : 1 ≤ (s.retry.getD {}).maxAttempts)
    (attempts : d.attempts = 1 + failures.length)
    (last : d.error ≠ none → failures.length = ((s.retry.getD {}).maxAttempts - 1).toNat) :
    (StepRun.mk before requests (concluded s d) after).Accounted s (failures.map some ++ [d.error]) where
  attempts := by
    show d.attempts = _
    rw [attempts, List.length_append, List.length_map, List.length_singleton, Nat.add_comm]
  retried := by simp
  exhausted := fun _ hfailed => by
    have hlast := last (hfailed d.error (by simp))
    rw [List.length_append, List.length_map, List.length_singleton]
    omega
  error := fun verdict h => by
    rw [List.getLast?_concat] at h
    rw [← Option.some.inj h]
    rfl

theorem cutShort_failed {s : Step} {before after : Store} {requests : List Request}
    {failures : List AttemptError} {error : StepError}
    (allowed : 1 ≤ (s.retry.getD {}).maxAttempts)
    (hwait : wait (s.retry.getD {}) (1 + failures.length) = .error error)
    (hleft : failures.length ≤ ((s.retry.getD {}).maxAttempts - 1).toNat) :
    (StepRun.mk before requests (failed s error.message) after).CutShort s (failures.map some) := by
  obtain ⟨hpos, cause, hcause, rfl⟩ := wait_eq_error hwait
  refine
    { attempts := rfl
      dispatched := fun hnil => ?_
      failed := by simp
      early := ?_
      untold := ⟨cause, ?_, rfl⟩ }
  · obtain rfl := List.map_eq_nil_iff.1 hnil
    exact absurd hpos (by simp)
  · rw [List.length_map]
    omega
  · rw [List.length_map, Nat.add_comm]
    exact hcause

/-- **A step accounts for its attempts**, unless they are cut short. -/
theorem accounted_step {s : Step} (allowed : 1 ≤ (s.retry.getD {}).maxAttempts) (store : Store)
    (past : List Request) :
    (step r host s store past).Accounted s (verdicts r host past (step r host s store past).requests) ∨
      (step r host s store past).CutShort s
        (verdicts r host past (step r host s store past).requests) := by
  have hdelay : ∀ past, verdicts r host past (delay r s) = [] :=
    verdicts_of_quiet r host fun _ => isDispatch_delay r
  by_cases hc : (Condition.holdsFor store s.condition).value = false
  · rw [step, if_pos hc]
    exact .inl (StepRun.accounted_nil rfl)
  · cases ht : Runner.target? s with
    | none =>
      simp only [step, if_neg hc, ht, hdelay]
      exact .inl (StepRun.accounted_nil rfl)
    | some target =>
      cases hi : (Json.resolve store (.record s.input)).outcome.value with
      | error error =>
        simp only [step, if_neg hc, ht, hi, hdelay]
        exact .inl (StepRun.accounted_nil rfl)
      | ok input =>
        have hattempted := attempted_dispatched r host s target input (past ++ delay r s)
        rcases hd : dispatched r host s target input (past ++ delay r s) with ⟨made, error | d⟩ <;>
          rw [hd] at hattempted <;>
          simp only [step, if_neg hc, ht, hi, hd, verdicts_append, hdelay, List.nil_append]
        · obtain ⟨failures, hverdicts, hwait, hleft⟩ := verdicts_of_attempted_error hattempted rfl
          rw [hverdicts]
          exact .inr (cutShort_failed allowed hwait hleft)
        · obtain ⟨failures, hverdicts, hattempts, hlast⟩ := verdicts_of_attempted_ok hattempted rfl
          rw [hverdicts]
          exact .inl (accounted_concluded allowed hattempts hlast)

/-! ## All steps of a run -/

theorem accounted_steps {ss : List Step} {store : Store} {past : List Request}
    (allowed : ∀ s ∈ ss, 1 ≤ (s.retry.getD {}).maxAttempts) {earlier later : List StepRun}
    {run : StepRun} (h : steps r host ss store past = earlier ++ run :: later) :
    ∃ s, ss[earlier.length]? = some s ∧
      (run.Accounted s (verdicts r host (past ++ earlier.flatMap StepRun.requests) run.requests) ∨
        run.CutShort s (verdicts r host (past ++ earlier.flatMap StepRun.requests) run.requests)) := by
  induction ss generalizing store past earlier with
  | nil => simp [steps] at h
  | cons s rest ih =>
    rw [steps] at h
    rw [List.forall_mem_cons] at allowed
    cases earlier with
    | nil =>
      obtain ⟨rfl, -⟩ := List.cons.inj h
      refine ⟨s, rfl, ?_⟩
      rw [List.flatMap_nil, List.append_nil]
      exact accounted_step r host allowed.1 store past
    | cons first earlier =>
      obtain ⟨rfl, hrest⟩ := List.cons.inj h
      rw [List.flatMap_cons, ← List.append_assoc]
      exact ih allowed.2 hrest

end Sequential

/-- A retry rule that is accepted, or none, allows for an attempt. -/
theorem one_le_maxAttempts {s : Step}
    (accepted : ∀ retry, s.retry = some retry → ∃ json, Retry.decode json = .accepted retry) :
    1 ≤ (s.retry.getD {}).maxAttempts := by
  cases hretry : s.retry with
  | none => decide
  | some retry =>
    obtain ⟨json, hjson⟩ := accepted retry hretry
    exact (Retry.allowed_of_decode hjson).maxAttempts

/-- **Attempts are accounted for.** In every accepted run, whatever the host answers, the result of a step tells as
many attempts as dispatches were made; a step whose dispatches all fail is dispatched as often as its retry rule
allows; and its error is that of its last dispatch. All this hangs on the wait before each further attempt being a
number. Where it is not, the step ends there, and its result tells neither of the dispatches nor of what was wrong
with them. -/
theorem Runner.run_accounts_attempts {r : Runner} {w : Workflow} {registry : Registry} (host : Host)
    (accepted : (registry.tryBegin (r.runId w)).1 = true)
    (allowed : ∀ s ∈ w.steps, ∀ retry, s.retry = some retry →
      ∃ json, Retry.decode json = .accepted retry) :
    (r.run w).perform host registry [] =
        ⟨.ok (Sequential.result r host w), registry,
          [.context, .knowledge] ++ (Sequential.stepRuns r host w).flatMap StepRun.requests⟩ ∧
      (Sequential.result r host w).steps = (Sequential.stepRuns r host w).map StepRun.result ∧
      ∀ earlier run later, Sequential.stepRuns r host w = earlier ++ run :: later →
        ∃ s verdicts, w.steps[earlier.length]? = some s ∧
          verdicts = Sequential.verdicts r host
            ([.context, .knowledge] ++ earlier.flatMap StepRun.requests) run.requests ∧
          verdicts.length = (run.requests.filter Request.isDispatch).length ∧
          (Retry.IsTold (s.retry.getD {}) → run.Accounted s verdicts) ∧
          (run.Accounted s verdicts ∨ run.CutShort s verdicts) := by
  refine ⟨perform_run r host (Registry.notMem_of_tryBegin accepted), rfl, fun earlier run later h => ?_⟩
  obtain ⟨s, hs, haccounted⟩ := Sequential.accounted_steps r host
    (fun s hs => one_le_maxAttempts (allowed s hs)) h
  exact ⟨s, _, hs, rfl, Sequential.length_verdicts r host _ _,
    fun told => haccounted.resolve_right (StepRun.not_cutShort told), haccounted⟩

/-- A task that fails once and has no retry rule, and one that would be tried three times and succeeds at once. -/
theorem Runner.run_accounts_attempts_both :
    let host : Host := Host.steady fun
      | .context => .ok (.items [])
      | .knowledge => .ok []
      | .sleep _ => ()
      | .dispatch _ target _ _ =>
        if target = "mail" then .error ⟨"Down", "no route", false⟩
        else .ok (.ready { success := true, data := .str "done" })
    let w : Workflow :=
      { id := some "w", name := "", createdAt := 0, updatedAt := 0, steps :=
          [{ id := "a", kind := .task, taskId := some "mail" },
            { id := "b", kind := .task, taskId := some "summary", retry := some { maxAttempts := 3 } }] }
    let r : Runner := { now := 0 }
    (Registry.empty.tryBegin (r.runId w)).1 = true ∧
      (∀ s ∈ w.steps, ∀ retry, s.retry = some retry → ∃ json, Retry.decode json = .accepted retry) ∧
      ∃ runs, ((r.run w).perform host Registry.empty []).requests =
          [.context, .knowledge] ++ runs.flatMap StepRun.requests ∧
        (runs.map fun run => (run.result.attempts, run.result.error)) =
          [(1, some "no route"), (1, none)] ∧
        ∀ earlier run later, runs = earlier ++ run :: later →
          run.result.attempts = (run.requests.filter Request.isDispatch).length := by
  intro host w r
  have accepted : (Registry.empty.tryBegin (r.runId w)).1 = true := rfl
  have allowed : ∀ s ∈ w.steps, ∀ retry, s.retry = some retry →
      ∃ json, Retry.decode json = .accepted retry := by
    intro s hs retry hretry
    refine ⟨.record [("maxAttempts", .int 3)], ?_⟩
    rcases List.mem_cons.1 hs with rfl | hs
    · cases hretry
    · obtain rfl := List.mem_singleton.1 hs
      obtain rfl := Option.some.inj hretry
      rfl
  have results : ((Sequential.stepRuns r host w).map fun run => (run.result.attempts, run.result.error)) =
      [(1, some "no route"), (1, none)] := rfl
  obtain ⟨hperform, -, haccounts⟩ := Runner.run_accounts_attempts host accepted allowed
  refine ⟨accepted, allowed, _, by rw [hperform], results, fun earlier run later h => ?_⟩
  obtain ⟨s, verdicts, -, -, hlength, -, haccounted⟩ := haccounts earlier run later h
  rcases haccounted with haccounted | hcut
  · rw [haccounted.attempts, hlength]
  · -- no step was cut short: both tell of an attempt
    have hmem : (run.result.attempts, run.result.error) ∈ [(1, some "no route"), (1, none)] := by
      rw [← results, h]
      exact List.mem_map_of_mem (List.mem_append_right _ List.mem_cons_self)
    simp [hcut.attempts] at hmem

end Runbook.Run
