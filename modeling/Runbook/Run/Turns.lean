import Mathlib.Logic.Function.Basic
import Runbook.Run.Runner

/-!
# Runs in turns

Runs that share a registry take turns. At its turn a run begins, or gets the answer to its request, and goes
on until it makes its next request or ends; nothing comes in between. A run that waits for an answer can be
cancelled, and so can one that has not begun. The order of the turns and the answers are free: whatever
hosts there are, and however many, is in `Move`.
-/

namespace Runbook.Run

/-- What others can see of a process. -/
inductive Event where
  | entered (id : String) (accepted : Bool)
  | left (id : String) (outcome : Except TransitionError State)
  | asked (request : Request)

/-- How far a process has come. -/
inductive Phase (α : Type) where
  | ready (p : Process α)
  | waiting (request : Request) (held : List String) (next : request.Answer → Process α)
  | ended (value : α)
  | cancelled

/-- Has a process begun and not ended yet? -/
def Phase.isWaiting {α : Type} : Phase α → Bool
  | waiting .. => true
  | _ => false

/-- Has a process come to an end? -/
def Phase.isOver {α : Type} : Phase α → Bool
  | ended _ => true
  | cancelled => true
  | _ => false

/-- A process on its way, with what could be seen of it. -/
structure Strand (α : Type) where
  phase : Phase α
  events : List Event := []

/-- The requests among events, in order. -/
def Event.requests : List Event → List Request
  | [] => []
  | asked request :: rest => request :: requests rest
  | _ :: rest => requests rest

namespace Process

variable {α : Type}

/-- Goes on with a process until it makes a request or ends. -/
def proceed : Process α → Registry → Strand α × Registry
  | done a, registry => (⟨.ended a, []⟩, registry)
  | tell _ next, registry => next.proceed registry
  | enter id next, registry =>
    let (accepted, registry) := registry.tryBegin id
    let (strand, registry) := (next accepted).proceed registry
    ({ strand with events := .entered id accepted :: strand.events }, registry)
  | leave id success next, registry =>
    let (outcome, registry) := registry.finish id success
    let (strand, registry) := (next outcome).proceed registry
    ({ strand with events := .left id outcome :: strand.events }, registry)
  | ask request held next, registry => (⟨.waiting request held next, [.asked request]⟩, registry)

end Process

namespace Strand

variable {α : Type}

/-- The requests of a process so far. -/
def requests (s : Strand α) : List Request :=
  Event.requests s.events

/-- Goes on with a process that has come to a strand. -/
def continued (s : Strand α) (p : Process α) (registry : Registry) : Strand α × Registry :=
  let (rest, registry) := p.proceed registry
  ({ rest with events := s.events ++ rest.events }, registry)

/-- Gives a process a turn: it begins, or gets an answer to its request. -/
def turn (answer : (request : Request) → request.Answer) (s : Strand α) (registry : Registry) :
    Strand α × Registry :=
  match s.phase with
  | .ready p => s.continued p registry
  | .waiting request _ next => s.continued (next (answer request)) registry
  | .ended _ | .cancelled => (s, registry)

/-- Cancels a process: it ends the runs that it holds. -/
def cancel (s : Strand α) (registry : Registry) : Strand α × Registry :=
  match s.phase with
  | .ready _ => ({ s with phase := .cancelled }, registry)
  | .waiting _ held _ =>
    let (outcomes, registry) := registry.finishAll held
    ({ phase := .cancelled, events := s.events ++ (held.zip outcomes).map fun p => .left p.1 p.2 },
      registry)
  | .ended _ | .cancelled => (s, registry)

end Strand

/-- A workflow and the runner that is to run it. -/
structure Job where
  runner : Runner
  workflow : Workflow

namespace Job

/-- The id under which a job is entered. -/
def id (j : Job) : String :=
  j.runner.runId j.workflow

/-- The run of a job. -/
def process (j : Job) : Process (Except TransitionError Result) :=
  j.runner.run j.workflow

end Job

/-- Runs on their way that share a registry. -/
structure World (ι : Type) where
  registry : Registry
  strands : ι → Strand (Except TransitionError Result)

/-- What happens next among some runs. -/
inductive Move (ι : Type) where
  /-- A run gets a turn. Its request, if it has made one, is answered. -/
  | turn (i : ι) (answer : (request : Request) → request.Answer)
  | cancel (i : ι)

/-- The run that a move is about. -/
def Move.run {ι : Type} : Move ι → ι
  | turn i _ => i
  | cancel i => i

namespace World

variable {ι : Type} [DecidableEq ι]

/-- No run has begun yet. -/
def initial (jobs : ι → Job) : World ι :=
  { registry := Registry.empty
    strands := fun i => { phase := .ready (jobs i).process } }

/-- Puts a strand and the registry in their places. -/
def set (world : World ι) (i : ι) (s : Strand (Except TransitionError Result) × Registry) : World ι :=
  { registry := s.2
    strands := Function.update world.strands i s.1 }

@[simp] theorem registry_set (world : World ι) (i : ι)
    (s : Strand (Except TransitionError Result) × Registry) : (world.set i s).registry = s.2 := rfl

@[simp] theorem strands_set_self (world : World ι) (i : ι)
    (s : Strand (Except TransitionError Result) × Registry) : (world.set i s).strands i = s.1 := by
  simp [set]

theorem strands_set_of_ne {i j : ι} (h : j ≠ i) (world : World ι)
    (s : Strand (Except TransitionError Result) × Registry) :
    (world.set i s).strands j = world.strands j := by
  simp [set, h]

/-- The world after a move. -/
def move (world : World ι) : Move ι → World ι
  | .turn i answer => world.set i ((world.strands i).turn answer world.registry)
  | .cancel i => world.set i ((world.strands i).cancel world.registry)

/-- The world after some moves. -/
def play (world : World ι) (moves : List (Move ι)) : World ι :=
  moves.foldl move world

end World

end Runbook.Run
