/-!
# The registry of runs

A registry knows which workflows have a run in flight, by their ids. All runs that must not overlap share
one. A run is entered when it begins and forgotten when it ends, so a registry holds nothing but ids of
runs in flight: `tryBegin_of_notMem` and `finish_of_mem` say what happens to a run that is accepted, and
`tryBegin_of_mem` that a second one leaves the registry as it is.
-/

namespace Runbook.Run

/-- What a workflow is doing. -/
inductive State where
  | idle
  | running
  | completed
  | failed
  deriving DecidableEq, Repr

namespace State

/-- The name of a state. -/
def name : State → String
  | idle => "idle"
  | running => "running"
  | completed => "completed"
  | failed => "failed"

/-- The states under their names. -/
def all : List (String × State) :=
  [("idle", idle), ("running", running), ("completed", completed), ("failed", failed)]

/-- Can a workflow go from one state to another? Only a run in flight ends, and only where there is none
one begins. -/
def allows : (current next : State) → Bool
  | idle, running => true
  | running, completed => true
  | running, failed => true
  | completed, running => true
  | failed, running => true
  | _, _ => false

end State

/-- A step from one state to another that is not allowed. -/
structure TransitionError where
  current : State
  next : State
  deriving DecidableEq, Repr

/-- The words for a step that is not allowed. -/
def TransitionError.message (e : TransitionError) : String :=
  s!"Illegal transition: {e.current.name} -> {e.next.name}"

/-- Goes from one state to another. -/
def transition (current next : State) : Except TransitionError State :=
  if current.allows next then .ok next else .error ⟨current, next⟩

/-- A workflow that is to begin has a run in flight. -/
structure AlreadyRunning where
  workflowId : String
  deriving DecidableEq, Repr

/-- The words for a workflow that has a run in flight. -/
def AlreadyRunning.message (e : AlreadyRunning) : String :=
  s!"Workflow already running: {e.workflowId}"

/-- The ids of the workflows with a run in flight, in the order in which the runs began. -/
@[ext]
structure Registry where
  running : List String
  nodup : running.Nodup

namespace Registry

/-- The registry without runs. -/
def empty : Registry :=
  ⟨[], List.nodup_nil⟩

/-- Has the workflow a run in flight? -/
def isRunning (id : String) (r : Registry) : Bool :=
  r.running.contains id

/-- The state of a workflow. -/
def state (id : String) (r : Registry) : State :=
  if r.isRunning id then .running else .idle

/-- The ids of the workflows with a run in flight, in the order of their characters. -/
def runningIds (r : Registry) : List String :=
  r.running.mergeSort fun a b => !decide (b < a)

/-- Enters a run, unless the workflow has one in flight. -/
def begin (id : String) (r : Registry) : Except AlreadyRunning Registry :=
  if h : id ∈ r.running then .error ⟨id⟩
  else .ok
    { running := r.running ++ [id]
      nodup := by
        rw [List.nodup_append]
        refine ⟨r.nodup, by simp, ?_⟩
        intro a ha b hb
        rw [List.mem_singleton] at hb
        rintro rfl
        exact h (hb ▸ ha) }

/-- Enters a run, if the workflow has none in flight, and tells whether it did. -/
def tryBegin (id : String) (r : Registry) : Bool × Registry :=
  match r.begin id with
  | .ok r => (true, r)
  | .error _ => (false, r)

/-- Forgets a workflow. -/
def forget (id : String) (r : Registry) : Registry :=
  { running := r.running.filter (· != id)
    nodup := r.nodup.filter _ }

/-- Ends the run of a workflow, with the state that it comes to, and forgets it. -/
def finish (id : String) (success : Bool) (r : Registry) : Except TransitionError State × Registry :=
  (transition (r.state id) (if success then .completed else .failed), r.forget id)

/-- Ends runs that came to no result, one after the other. -/
def finishAll : List String → Registry → List (Except TransitionError State) × Registry
  | [], r => ([], r)
  | id :: ids, r =>
    let (state, r) := r.finish id false
    let (states, r) := finishAll ids r
    (state :: states, r)

/-! ## What the operations do -/

@[simp] theorem running_empty : empty.running = [] := rfl

@[simp] theorem running_forget (id : String) (r : Registry) :
    (r.forget id).running = r.running.filter (· != id) := rfl

theorem mem_forget {id id' : String} {r : Registry} :
    id' ∈ (r.forget id).running ↔ id' ∈ r.running ∧ id' ≠ id := by
  simp [forget]

theorem tryBegin_of_mem {id : String} {r : Registry} (h : id ∈ r.running) :
    r.tryBegin id = (false, r) := by
  simp [tryBegin, begin, h]

theorem tryBegin_of_notMem {id : String} {r : Registry} (h : id ∉ r.running) :
    (r.tryBegin id).1 = true ∧ (r.tryBegin id).2.running = r.running ++ [id] := by
  simp [tryBegin, begin, h]

theorem mem_tryBegin {id : String} {r : Registry} (h : id ∉ r.running) :
    id ∈ (r.tryBegin id).2.running := by
  rw [(tryBegin_of_notMem h).2]
  simp

theorem notMem_of_tryBegin {id : String} {r : Registry} (h : (r.tryBegin id).1 = true) :
    id ∉ r.running := by
  intro hmem
  rw [tryBegin_of_mem hmem] at h
  cases h

theorem finish_of_mem {id : String} {r : Registry} (success : Bool) (h : id ∈ r.running) :
    r.finish id success = (.ok (if success then .completed else .failed), r.forget id) := by
  have hs : r.state id = .running := by simp [state, isRunning, h]
  cases success <;> simp [finish, hs, transition, State.allows]

/-- A run that is entered and forgotten leaves the registry as it was. -/
theorem forget_tryBegin {id : String} {r : Registry} (h : id ∉ r.running) :
    (r.tryBegin id).2.forget id = r := by
  ext1
  rw [running_forget, (tryBegin_of_notMem h).2, List.filter_append]
  have hr : r.running.filter (· != id) = r.running := by
    refine List.filter_eq_self.2 fun a ha => ?_
    simpa using fun e : a = id => h (e ▸ ha)
  simp [hr]

@[simp] theorem mem_runningIds {id : String} {r : Registry} : id ∈ r.runningIds ↔ id ∈ r.running :=
  List.mem_mergeSort

end Registry

/-!
## Registries as tables of states

A registry can also be kept as a table that has a state under each of its ids; an id that is not in the table is
idle. A run that begins is entered with the state that it comes to. A run that ends is taken out of the table
first, and only then is it asked whether it could end.

Both kinds of registry are asked the same things, one after the other: `Registry.perform` and `Table.perform` say
what is answered, and what is the registry afterwards.
-/

/-- What is asked of a registry. -/
inductive Operation where
  | begin (id : String)
  | tryBegin (id : String)
  | finish (id : String) (success : Bool)
  | state (id : String)
  | runningIds
  deriving DecidableEq, Repr

/-- The workflow that is asked about, if it is one. -/
def Operation.id? : Operation → Option String
  | begin id | tryBegin id | finish id _ | state id => some id
  | runningIds => none

/-- What a registry answers. -/
inductive Answer where
  | begun
  | tried (accepted : Bool)
  /-- The state that a workflow is in, or that its run came to. -/
  | found (state : State)
  | listed (ids : List String)
  | taken (error : AlreadyRunning)
  | illegal (error : TransitionError)
  deriving DecidableEq, Repr

/-- Does the answer say that it was not done? -/
def Answer.isFailure : Answer → Bool
  | tried accepted => !accepted
  | taken _ | illegal _ => true
  | _ => false

/-- The answer to a run that was to end. -/
def Answer.ofTransition : Except TransitionError State → Answer
  | .ok state => found state
  | .error error => illegal error

/-- The state that a run comes to at its end. -/
def State.ofSuccess (success : Bool) : State :=
  if success then completed else failed

/-- Asks a registry. -/
def Registry.perform : Operation → Registry → Answer × Registry
  | .begin id, r => match r.begin id with
    | .ok r' => (.begun, r')
    | .error error => (.taken error, r)
  | .tryBegin id, r => (.tried (r.tryBegin id).1, (r.tryBegin id).2)
  | .finish id success, r => (.ofTransition (r.finish id success).1, (r.finish id success).2)
  | .state id, r => (.found (r.state id), r)
  | .runningIds, r => (.listed r.runningIds, r)

/-- States under ids, in the order in which the ids were entered. -/
structure Table where
  entries : List (String × State)
  deriving DecidableEq, Repr

namespace Table

/-- The table without entries. -/
def empty : Table :=
  ⟨[]⟩

/-- The state under an id. -/
def state (id : String) (t : Table) : State :=
  (t.entries.lookup id).getD .idle

/-- Puts a state under an id, in the place of the one that is there or else at the end. -/
def set (id : String) (state : State) (t : Table) : Table :=
  if (t.entries.lookup id).isSome then
    ⟨t.entries.map fun entry => if entry.1 == id then (id, state) else entry⟩
  else ⟨t.entries ++ [(id, state)]⟩

/-- Takes an id out. -/
def erase (id : String) (t : Table) : Table :=
  ⟨t.entries.filter fun entry => entry.1 != id⟩

/-- The ids with a run in flight, in the order of their characters. -/
def runningIds (t : Table) : List String :=
  ((t.entries.filter fun entry => entry.2 == .running).map Prod.fst).mergeSort fun a b => !decide (b < a)

/-- Enters a run, unless the workflow has one in flight. -/
def begin (id : String) (t : Table) : Answer × Table :=
  if t.state id = .running then (.taken ⟨id⟩, t)
  else
    match transition (t.state id) .running with
    | .ok state => (.begun, t.set id state)
    | .error error => (.illegal error, t)

/-- Asks a table. -/
def perform : Operation → Table → Answer × Table
  | .begin id, t => t.begin id
  | .tryBegin id, t => match t.begin id with
    | (.begun, t') => (.tried true, t')
    | (.taken _, t') => (.tried false, t')
    | other => other
  | .finish id success, t => (.ofTransition (transition (t.state id) (.ofSuccess success)), t.erase id)
  | .state id, t => (.found (t.state id), t)
  | .runningIds, t => (.listed t.runningIds, t)

end Table

/-- Asks one thing after the other. -/
def performAll {σ : Type} (perform : Operation → σ → Answer × σ) : List Operation → σ → List Answer × σ
  | [], s => ([], s)
  | op :: ops, s =>
    let (answer, s) := perform op s
    let (answers, s) := performAll perform ops s
    (answer :: answers, s)

end Runbook.Run
