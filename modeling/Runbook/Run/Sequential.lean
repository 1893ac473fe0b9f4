import Runbook.Run.Process
import Runbook.Run.Runner

/-!
# Runs, step by step

What a run does, told without processes: the data points at its start, then for each step what it found,
what it asked of the host, what came of it and what it left behind. A step asks nothing if its condition is
false; otherwise it waits out its delay and is dispatched with its resolved input, again and again as its
retry rule has it, until the host succeeds. The steps follow each other whatever comes of them.
-/

namespace Runbook.Run

/-- Is a step dispatched by this request? -/
def Request.isDispatch : Request → Bool
  | dispatch _ _ _ _ => true
  | _ => false

/-- One step of a run: the data points before it, its requests, its result and the data points after it. -/
structure StepRun where
  before : Store
  requests : List Request
  result : StepResult
  after : Store

namespace Sequential

/-! ## The start -/

/-- The data points that a context comes to. -/
def contextPoints (now : Int) : Except Fault Context.Gathered → List DataPoint
  | .error _ => []
  | .ok gathered =>
    match (Context.collect now gathered).outcome.value with
    | .error _ => []
    | .ok points => points

/-- The data points that the knowledge base comes to. -/
def knowledgePoints (now : Int) : Except Fault (List Knowledge) → List DataPoint
  | .error _ => []
  | .ok entries => entries.map (Knowledge.toDataPoint now)

/-- The requests at the start of a run. -/
def opening : List Request :=
  [.context, .knowledge]

/-- The data points from both sources, those of the context first. -/
def gathered (r : Runner) (host : Host) : List DataPoint :=
  contextPoints r.now (host [] .context) ++ knowledgePoints r.now (host [.context] .knowledge)

/-- The data points at the start of a run. -/
def initialStore (r : Runner) (host : Host) : Store :=
  Store.empty.addAll (gathered r host)

/-! ## One step -/

/-- The delay of a step as far as it is waited out. -/
def delay (r : Runner) (s : Step) : List Request :=
  match s.delay with
  | none => []
  | some seconds =>
    if seconds == 0.0 then []
    else match r.maxDelay with
      | none => [.sleep seconds]
      | some longest => [.sleep (if longest < seconds then longest else seconds)]

/-- The wait before the `n`th attempt at a step. -/
def wait (retry : Retry) (n : Nat) : Except StepError (List Request) :=
  if n ≤ 1 then .ok []
  else match retry.waitBefore n with
    | .error error => .error (.waitTooLong error)
    | .ok seconds => .ok (if 0.0 < seconds then [.sleep seconds] else [])

/-- The attempts at a step from the `n`th on, at most `left` after it: the requests, and what came of the
last one. -/
def attempts (r : Runner) (host : Host) (retry : Retry) (kind : Step.Kind) (target : String)
    (input : Json) : (left n : Nat) → (past : List Request) → List Request × Except StepError Dispatched
  | left, n, past =>
    match wait retry n with
    | .error error => ([], .error error)
    | .ok pause =>
      let call : Request := .dispatch kind target input r.timeout
      match r.judge kind target (host (past ++ pause) (.dispatch kind target input r.timeout)), left with
      | (response, none), _ => (pause ++ [call], .ok ⟨response, none, n⟩)
      | (response, some error), 0 => (pause ++ [call], .ok ⟨response, some error, n⟩)
      | (_, some _), left + 1 =>
        let (more, outcome) :=
          attempts r host retry kind target input left (n + 1) (past ++ pause ++ [call])
        (pause ++ call :: more, outcome)

/-- All attempts at a step that its retry rule allows. -/
def dispatched (r : Runner) (host : Host) (s : Step) (target : String) (input : Json)
    (past : List Request) : List Request × Except StepError Dispatched :=
  let retry := s.retry.getD {}
  attempts r host retry s.kind target input (retry.maxAttempts - 1).toNat 1 past

/-- The result of a step that comes to nothing before the end of its attempts. -/
def failed (s : Step) (error : String) : StepResult :=
  { stepId := s.id, kind := s.kind, status := .failed, error := some error }

/-- The result of a step after its attempts. -/
def concluded (s : Step) (d : Dispatched) : StepResult :=
  { stepId := s.id
    kind := s.kind
    status := if d.error.isNone then .succeeded else .failed
    response := d.response
    error := d.error.map AttemptError.message
    attempts := d.attempts }

/-- The data point that a step with this result leaves behind: the output of a task that succeeded. -/
def output? (r : Runner) (s : Step) (result : StepResult) : Option DataPoint :=
  if s.kind = .task ∧ result.status = .succeeded then
    some (DataPoint.ofTaskOutput r.now s.id ((result.response.map Response.data).getD .null))
  else none

/-- A step after the requests in `past`. -/
def step (r : Runner) (host : Host) (s : Step) (store : Store) (past : List Request) : StepRun :=
  if (Condition.holdsFor store s.condition).value = false then
    { before := store
      requests := []
      result :=
        { stepId := s.id, kind := s.kind, status := .skipped, reason := some skippedReason }
      after := store }
  else
    match Runner.target? s with
    | none =>
      ⟨store, delay r s, failed s s!"Step {s.id} has no {s.kind.targetKey}", store⟩
    | some target =>
      match (Json.resolve store (.record s.input)).outcome.value with
      | .error error => ⟨store, delay r s, failed s (StepError.unresolved error).message, store⟩
      | .ok input =>
        match dispatched r host s target input (past ++ delay r s) with
        | (made, .error error) => ⟨store, delay r s ++ made, failed s error.message, store⟩
        | (made, .ok d) =>
          let result := concluded s d
          ⟨store, delay r s ++ made, result, store.addAll (output? r s result).toList⟩

/-! ## One run -/

/-- Steps one after the other. -/
def steps (r : Runner) (host : Host) : List Step → Store → (past : List Request) → List StepRun
  | [], _, _ => []
  | s :: rest, store, past =>
    let run := step r host s store past
    run :: steps r host rest run.after (past ++ run.requests)

/-- The data points after some steps. -/
def finalStore : (start : Store) → List StepRun → Store
  | start, [] => start
  | _, run :: runs => finalStore run.after runs

/-- The steps of a run. -/
def stepRuns (r : Runner) (host : Host) (w : Workflow) : List StepRun :=
  steps r host w.steps (initialStore r host) opening

/-- The requests of a run. -/
def requests (r : Runner) (host : Host) (w : Workflow) : List Request :=
  opening ++ (stepRuns r host w).flatMap StepRun.requests

/-- The result of a run. -/
def result (r : Runner) (host : Host) (w : Workflow) : Result :=
  let runs := stepRuns r host w
  { workflowId := r.runId w
    success := runs.all fun run => run.result.status != .failed
    steps := runs.map StepRun.result
    dataPoints := (finalStore (initialStore r host) runs).points }

end Sequential

end Runbook.Run
