import Runbook.Condition.Eval
import Runbook.DataPoint.Store
import Runbook.Input
import Runbook.Reference.Dependency
import Runbook.Run.Process
import Runbook.Run.Result
import Runbook.Workflow.Basic

/-!
# Running workflows

`Runner.run` is the process of running a workflow. The steps come one after the other: a step whose
condition does not hold is skipped; otherwise its delay is waited out, its input is resolved against the
data points that there are by then, and it is dispatched to the host, more than once if need be. The output
of a task is a data point for the steps after it. Whatever goes wrong with a step is the result of that
step, and the run goes on.
-/

namespace Runbook.Run

/-- What all runs of one runner have in common. -/
structure Runner where
  /-- The time, in milliseconds. -/
  now : Int
  /-- The seconds after which a dispatched step counts as failed. -/
  timeout : Option Float := none
  /-- The longest delay of a step, in seconds. -/
  maxDelay : Option Float := none

/-- Why an attempt at a step failed. -/
inductive AttemptError where
  | fault (fault : Fault)
  | timedOut (kind : Step.Kind) (target : String) (seconds : Float)
  | notResponse (error : Response.ReplyError)
  /-- The host answered that the step failed; it may have said why. -/
  | reported (kind : Step.Kind) (target : String) (text : Option String)

/-- The words for a failed attempt; there always are some. -/
def AttemptError.message : AttemptError → String
  | fault f => f.message
  | timedOut kind target seconds =>
    s!"{kind.name} {target} timed out after {Decimal.Style.brief.write seconds}s"
  | notResponse error => error.message
  | reported kind target text =>
    match text.filter fun s => !s.isEmpty with
    | some s => s
    | none => s!"{kind.name} {target} reported failure"

/-- What keeps a step from being dispatched, at first or again. -/
inductive StepError where
  | unresolved (error : Token.RenderError)
  | waitTooLong (error : Retry.WaitError)
  deriving DecidableEq, Repr

/-- The words for what keeps a step from being dispatched. -/
def StepError.message : StepError → String
  | unresolved error => error.message
  | waitTooLong error => error.message

/-- How the attempts at a step ended: with the answer of the host to the last one, if there was one, what
was wrong with it, and how many attempts there were. -/
structure Dispatched where
  response : Option Response
  error : Option AttemptError
  attempts : Nat

/-! ## Records -/

/-- A record about a run. -/
def runRecord (level : Log.Level) (message : String) (fields : Fields) (trace : Bool := false) :
    Log.Record :=
  ⟨.runs, level, message, fields, trace⟩

/-- The fields that say which step a record is about. -/
def stepFields (workflowId : String) (s : Step) : Fields :=
  [("workflow_id", .str workflowId), ("step_id", .str s.id), ("kind", .str s.kind.name)]

/-- Why a step is skipped. -/
def skippedReason : String := "condition evaluated to false"

/-- The warning about a use of an output that will come to nothing. -/
def dependencyRecord (workflowId : String) (issue : Dependency.Issue) : Log.Record :=
  runRecord .warning issue.message
    [("workflow_id", .str workflowId), ("step_id", Json.ofText? issue.reference.stepId),
      ("field", .str issue.reference.field), ("problem", .str issue.problem.name)]

namespace Runner

/-! ## One attempt -/

/-- What comes of the answer to an attempt. -/
def judge (r : Runner) (kind : Step.Kind) (target : String) (answer : Except Fault Reply) :
    Option Response × Option AttemptError :=
  match answer with
  | .error f =>
    match f.isTimeout, r.timeout with
    | true, some seconds => (none, some (.timedOut kind target seconds))
    | _, _ => (none, some (.fault f))
  | .ok reply =>
    match reply.response with
    | .error error => (none, some (.notResponse error))
    | .ok response =>
      if response.success then (some response, none)
      else (some response, some (.reported kind target response.error))

/-- Waits before an attempt that is not the first. -/
def waitFor (retry : Retry) (fields : Fields) (attempt : Nat) : ExceptT StepError Process Unit :=
  match retry.waitBefore attempt with
  | .error error => throw (.waitTooLong error)
  | .ok seconds => do
    Process.note (runRecord .info "Retrying step"
      (fields ++ [("attempt", .nat attempt), ("wait", .float seconds)]))
    if 0.0 < seconds then Process.sleep seconds

/-- Makes the `attempt`th attempt at a step. -/
def attempt (r : Runner) (retry : Retry) (fields : Fields) (kind : Step.Kind) (target : String)
    (input : Json) (attempt : Nat) :
    ExceptT StepError Process (Option Response × Option AttemptError) := do
  if 1 < attempt then waitFor retry fields attempt
  let answer ← Process.dispatch kind target input r.timeout
  return r.judge kind target answer

/-- Dispatches a step until an attempt succeeds, at most `left` times after the `n`th attempt. -/
def dispatchFrom (r : Runner) (retry : Retry) (fields : Fields) (kind : Step.Kind) (target : String)
    (input : Json) : (n left : Nat) → ExceptT StepError Process Dispatched
  | n, 0 => do
    let (response, error) ← r.attempt retry fields kind target input n
    return ⟨response, error, n⟩
  | n, left + 1 => do
    match ← r.attempt retry fields kind target input n with
    | (response, none) => return ⟨response, none, n⟩
    | (_, some _) => dispatchFrom r retry fields kind target input (n + 1) left

/-- Dispatches a step until an attempt succeeds, as often as its retry rule allows. -/
def dispatch (r : Runner) (retry : Retry) (fields : Fields) (kind : Step.Kind) (target : String)
    (input : Json) : ExceptT StepError Process Dispatched :=
  r.dispatchFrom retry fields kind target input 1 (retry.maxAttempts - 1).toNat

/-! ## One step -/

/-- The delay of a step, or the longest one that is allowed, with a warning. -/
def clampDelay (r : Runner) (fields : Fields) (delay : Float) : Process Float :=
  match r.maxDelay with
  | some longest =>
    if longest < delay then do
      Process.note (runRecord .warning "Step delay clamped"
        (fields ++ [("requested", .float delay), ("clamped_to", .float longest)]))
      return longest
    else return delay
  | none => return delay

/-- Waits out the delay of a step. -/
def waitDelay (r : Runner) (fields : Fields) (delay : Option Float) : Process Unit :=
  match delay.filter fun x => x != 0.0 with
  | some delay => do
    let seconds ← r.clampDelay fields delay
    Process.sleep seconds
  | none => return ()

/-- An input with all tokens resolved. -/
def resolveInput (s : Store) (input : Json) : ExceptT StepError Process Json :=
  ExceptT.mk ((Process.ofLogged (input.resolve s).outcome).bind fun outcome =>
    .done (outcome.mapError .unresolved))

/-- The target of a step, unless it is missing or empty. -/
def target? (s : Step) : Option String :=
  s.target?.filter fun target => !target.isEmpty

/-- The result of a step that has no target. -/
def withoutTarget (fields : Fields) (s : Step) : Process StepResult := do
  let error := s!"Step {s.id} has no {s.kind.targetKey}"
  Process.note (runRecord .warning "Step failed" (fields ++ [("error", .str error)]))
  return { stepId := s.id, kind := s.kind, status := .failed, error := some error }

/-- The result of a step that is skipped. -/
def skipped (fields : Fields) (s : Step) : Process StepResult := do
  Process.note (runRecord .info "Step skipped" (fields ++ [("reason", .str skippedReason)]))
  return { stepId := s.id, kind := s.kind, status := .skipped, reason := some skippedReason }

/-- Adds the output of a step that succeeded, if it is a task. -/
def addOutput (r : Runner) (s : Step) (response : Option Response) (store : Store) : Process Store :=
  match s.kind with
  | .task =>
    let value := (response.map Response.data).getD .null
    Process.ofLogged (store.addLogged (DataPoint.ofTaskOutput r.now s.id value))
  | .handler => return store

/-- The result of a step that was dispatched, and the data points after it. -/
def conclude (r : Runner) (fields : Fields) (s : Step) (d : Dispatched) (store : Store) :
    Process (StepResult × Store) := do
  let result (status : Status) (error : Option String) : StepResult :=
    { stepId := s.id
      kind := s.kind
      status := status
      response := d.response
      error := error
      attempts := d.attempts }
  match d.error with
  | none =>
    let store ← r.addOutput s d.response store
    Process.note (runRecord .info "Step succeeded" (fields ++ [("attempts", .nat d.attempts)]))
    return (result .succeeded none, store)
  | some error =>
    Process.note (runRecord .warning "Step failed"
      (fields ++ [("attempts", .nat d.attempts), ("error", .str error.message)]))
    return (result .failed (some error.message), store)

/-- Runs a step whose condition holds. -/
def runReady (r : Runner) (fields : Fields) (s : Step) (store : Store) :
    ExceptT StepError Process (StepResult × Store) := do
  r.waitDelay fields s.delay
  match target? s with
  | none => return (← withoutTarget fields s, store)
  | some target =>
    let input ← resolveInput store (.record s.input)
    let dispatched ← r.dispatch (s.retry.getD {}) fields s.kind target input
    r.conclude fields s dispatched store

/-- The result of a step that could not be dispatched. -/
def aborted (fields : Fields) (s : Step) (error : StepError) : Process StepResult := do
  Process.note (runRecord .error "Step failed" fields true)
  return { stepId := s.id, kind := s.kind, status := .failed, error := some error.message }

/-- Runs a step; the result comes with the data points that there are after it. -/
def runStep (r : Runner) (workflowId : String) (s : Step) (store : Store) :
    Process (StepResult × Store) := do
  let fields := stepFields workflowId s
  if ← Process.ofLogged (Condition.holdsFor store s.condition) then
    match ← (r.runReady fields s store).run with
    | .ok outcome => return outcome
    | .error error => return (← aborted fields s error, store)
  else return (← skipped fields s, store)

/-- Runs steps one after the other. -/
def runSteps (r : Runner) (workflowId : String) : List Step → Store → Process (List StepResult × Store)
  | [], store => return ([], store)
  | s :: rest, store => do
    let (result, store) ← r.runStep workflowId s store
    let (results, store) ← runSteps r workflowId rest store
    return (result :: results, store)

/-! ## One run -/

/-- The warning about a source that failed. -/
def sourceRecord (message : String) : Log.Record :=
  runRecord .warning message [] true

/-- The data points from the context; none if it cannot be had. -/
def contextPoints (r : Runner) : Process (List DataPoint) := do
  let failed := sourceRecord "Context gathering failed; continuing without context"
  match ← Process.gather with
  | .error _ =>
    Process.note failed
    return []
  | .ok gathered =>
    match ← Process.ofLogged (Context.collect r.now gathered).outcome with
    | .ok points => return points
    | .error _ =>
      Process.note failed
      return []

/-- The data points from the knowledge base; none if it cannot be had. -/
def knowledgePoints (r : Runner) : Process (List DataPoint) := do
  match ← Process.listKnowledge with
  | .ok entries => return entries.map (Knowledge.toDataPoint r.now)
  | .error _ =>
    Process.note (sourceRecord "Knowledge loading failed; continuing without knowledge")
    return []

/-- The data points at the start of a run. -/
def initialStore (r : Runner) : Process Store := do
  let context ← r.contextPoints
  let knowledge ← r.knowledgePoints
  let store ← Process.ofLogged (Store.empty.addAllLogged (context ++ knowledge))
  Process.note (runRecord .debug "Run data points initialized"
    [("context", .nat context.length), ("knowledge", .nat knowledge.length)])
  return store

/-- The id under which a run is entered. -/
def runId (r : Runner) (w : Workflow) : String :=
  (w.id.filter fun id => !id.isEmpty).getD s!"workflow_{r.now}"

/-- What a run does while it is entered in the registry. -/
def body (r : Runner) (id : String) (w : Workflow) : Process Result := do
  let store ← r.initialStore
  Process.tellAll ((Dependency.analyze w.steps).map (dependencyRecord id))
  let (results, store) ← r.runSteps id w.steps store
  return {
    workflowId := id
    success := !results.any fun result => result.status == .failed
    steps := results
    dataPoints := store.points }

/-- The result of a run that is not accepted. -/
def rejected (id : String) : Process Result := do
  let error := (AlreadyRunning.mk id).message
  Process.note (runRecord .warning "Workflow run rejected"
    [("workflow_id", .str id), ("error", .str error)])
  return { workflowId := id, success := false, error := some error }

/-- The note on the end of a run. -/
def finishedRecord (result : Result) : Log.Record :=
  runRecord .info "Workflow run finished"
    [("workflow_id", .str result.workflowId), ("success", .bool result.success),
      ("failed_steps", .list (result.failedSteps.map .str)), ("duration_ms", .nat 0)]

/-- Runs a workflow. A run is not accepted while another run of the same workflow is in flight. It is held
in the registry until it has its result or is cancelled. The outcome is an error only if someone else ends
the run in the registry. -/
def run (r : Runner) (w : Workflow) : Process (Except TransitionError Result) := do
  let id := r.runId w
  Process.enter id fun entered =>
    if entered then do
      Process.note (runRecord .info "Workflow run started"
        [("workflow_id", .str id), ("steps", .nat w.steps.length)])
      let result ← (r.body id w).holding id
      Process.leave id result.success fun
        | .error error => .done (.error error)
        | .ok _ => do
          Process.note (finishedRecord result)
          return .ok result
    else do return .ok (← rejected id)

end Runner

end Runbook.Run
