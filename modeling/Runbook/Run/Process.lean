import Runbook.DataPoint.Context
import Runbook.Knowledge
import Runbook.Response
import Runbook.Run.Registry
import Runbook.Workflow.Step

/-!
# Processes

A run is a process: it asks its host for something, waits for the answer, and goes on. Between two requests
it writes records and enters or leaves the registry, which takes no time. A process is a tree of what it
does next for each answer it can get, so that it can be carried out by any host, in one go or in turns with
other processes. While it waits for an answer it can be cancelled: it then ends the runs that it holds, and
goes no further.

A host answers the requests of one process; what it answers may depend on all that it was asked before, so
its replies can come in any sequence. `Process.perform` carries a process out before a host and keeps the
requests that were made, in order.
-/

namespace Runbook.Run

/-- What a host reports instead of an answer. -/
structure Fault where
  /-- The name of the kind of fault. -/
  kind : String
  /-- The words for the fault, which may be missing. -/
  text : String
  /-- Was no answer to be had in time? -/
  isTimeout : Bool := false
  deriving DecidableEq, Repr

/-- The words for a fault: its own, or else the name of its kind. -/
def Fault.message (f : Fault) : String :=
  if f.text.isEmpty then f.kind else f.text

/-- The answer to a dispatched step: a response, or a value that should be one. -/
inductive Reply where
  | ready (response : Response)
  | raw (value : Json)

/-- The response that a reply is or stands for. -/
def Reply.response : Reply → Except Response.ReplyError Response
  | ready r => .ok r
  | raw json => Response.ofReply json

/-- What a process asks of its host. -/
inductive Request where
  /-- The context of the run. -/
  | context
  /-- The entries of the knowledge base. -/
  | knowledge
  /-- To wait for some seconds. -/
  | sleep (seconds : Float)
  /-- To carry out a step, in no more than so many seconds. -/
  | dispatch (kind : Step.Kind) (target : String) (input : Json) (timeout : Option Float)

/-- What a host answers to a request. -/
def Request.Answer : Request → Type
  | context => Except Fault Context.Gathered
  | knowledge => Except Fault (List Knowledge)
  | sleep _ => Unit
  | dispatch _ _ _ _ => Except Fault Reply

/-- A process that comes to a value of type `α`. -/
inductive Process (α : Type) where
  | done (value : α)
  | tell (record : Log.Record) (next : Process α)
  /-- Enters the run of a workflow, if it has none in flight. -/
  | enter (id : String) (next : Bool → Process α)
  /-- Ends the run of a workflow. -/
  | leave (id : String) (success : Bool) (next : Except TransitionError State → Process α)
  /-- Asks the host for something. The runs in `held` end if the process is cancelled while it waits. -/
  | ask (request : Request) (held : List String) (next : request.Answer → Process α)

namespace Process

variable {α β : Type}

/-- Goes on with a second process. -/
def bind : Process α → (α → Process β) → Process β
  | done a, f => f a
  | tell record next, f => tell record (bind next f)
  | enter id next, f => enter id fun entered => bind (next entered) f
  | leave id success next, f => leave id success fun state => bind (next state) f
  | ask request held next, f => ask request held fun answer => bind (next answer) f

instance : Monad Process where
  pure := done
  bind := bind

/-- Writes records one after the other. -/
def tellAll : List Log.Record → Process Unit
  | [] => done ()
  | record :: rest => tell record (tellAll rest)

/-- A computation that asks nothing. -/
def ofLogged (x : Logged α) : Process α :=
  (tellAll x.records).bind fun _ => done x.value

/-- Writes one record. -/
def note (record : Log.Record) : Process Unit :=
  tell record (done ())

/-- Asks the host for the context. -/
def gather : Process (Except Fault Context.Gathered) :=
  ask .context [] done

/-- Asks the host for the entries of the knowledge base. -/
def listKnowledge : Process (Except Fault (List Knowledge)) :=
  ask .knowledge [] done

/-- Waits for some seconds. -/
def sleep (seconds : Float) : Process Unit :=
  ask (.sleep seconds) [] done

/-- Has the host carry out a step. -/
def dispatch (kind : Step.Kind) (target : String) (input : Json) (timeout : Option Float) :
    Process (Except Fault Reply) :=
  ask (.dispatch kind target input timeout) [] done

/-- Holds a run: wherever the process is cancelled, the run ends too, after those that it held before. -/
def holding (id : String) : Process α → Process α
  | done a => done a
  | tell record next => tell record (holding id next)
  | enter id' next => enter id' fun entered => holding id (next entered)
  | leave id' success next => leave id' success fun state => holding id (next state)
  | ask request held next => ask request (held ++ [id]) fun answer => holding id (next answer)

/-- Holds runs, the first of which ends first. -/
def holdingAll (ids : List String) (p : Process α) : Process α :=
  ids.foldl (fun p id => holding id p) p

/-- Carries a process out in one go, with a way to write records and a way to answer requests. The second
component is the registry after it. -/
def carryOut {m : Type → Type} [Monad m] (write : Log.Record → m Unit)
    (answer : (r : Request) → m r.Answer) : Process α → Registry → m (α × Registry)
  | done a, registry => pure (a, registry)
  | tell record next, registry => do
    write record
    carryOut write answer next registry
  | enter id next, registry =>
    let (entered, registry) := registry.tryBegin id
    carryOut write answer (next entered) registry
  | leave id success next, registry =>
    let (state, registry) := registry.finish id success
    carryOut write answer (next state) registry
  | ask r _ next, registry => do
    carryOut write answer (next (← answer r)) registry

end Process

/-! ## Hosts -/

/-- What is answered to a request after the requests in `past`. -/
abbrev Host := (past : List Request) → (request : Request) → request.Answer

namespace Host

/-- Answers a request, and keeps it. -/
def answer (host : Host) (request : Request) : StateM (List Request) request.Answer :=
  fun past => (host past request, past ++ [request])

/-- The host that answers a request in the same way whenever it is made. -/
def steady (answer : (request : Request) → request.Answer) : Host :=
  fun _ => answer

end Host

/-- How a process went: the value that it came to, the registry after it, and all requests up to then. -/
structure Performance (α : Type) where
  value : α
  registry : Registry
  requests : List Request

/-- Carries a process out before a host that was asked the requests in `past` already. -/
def Process.perform {α : Type} (host : Host) (p : Process α) (registry : Registry)
    (past : List Request) : Performance α :=
  let ((value, registry), requests) :=
    (p.carryOut (fun _ => pure ()) host.answer registry : StateM (List Request) (α × Registry)).run past
  ⟨value, registry, requests⟩

end Runbook.Run
