import Runbook.Run.Runner

/-!
# Rehearsals

A rehearsal runs workflows before a host whose answers are written down in advance: for each target a list
of lines, one for each call, of which the last is repeated. A line may wait for a gate to be opened, never
come to an answer, or run a workflow of its own. Several runs can be under way; each goes on until it has to
wait, and goes on again when its gate is opened.
-/

namespace Runbook.Run

/-- What a host does when a step is dispatched to it. -/
inductive Action where
  | reply (reply : Reply)
  | fail (fault : Fault)
  | hang
  /-- Runs a workflow with the same runner, and answers with the result. -/
  | nested (workflow : Workflow)

/-- One line of the script for a target: what the host does once a gate is open. -/
structure Line where
  gate : Option String := none
  action : Action

/-- A step that was dispatched. -/
structure Call where
  kind : Step.Kind
  target : String
  input : Json

/-- What is settled before a rehearsal. -/
structure Setting where
  runner : Runner
  context : Except Fault Context.Gathered := .ok (.items [])
  knowledge : Except Fault (List Knowledge) := .ok []

/-- What changes in the course of a rehearsal. -/
structure Stage where
  /-- The lines that are still to come, for each target that has any. -/
  scripts : List (String × List Line)
  registries : List (String × Registry) := []
  openGates : List String := []
  calls : List Call := []
  sleeps : List Float := []
  records : List Log.Record := []

namespace Stage

/-- The registry with a name; a new one is empty. -/
def registry (name : String) (s : Stage) : Registry :=
  (s.registries.lookup name).getD Registry.empty

/-- Puts a registry in its place. -/
def setRegistry (name : String) (r : Registry) (s : Stage) : Stage :=
  if s.registries.any fun entry => entry.1 == name then
    { s with
      registries := s.registries.map fun entry => if entry.1 == name then (name, r) else entry }
  else { s with registries := s.registries ++ [(name, r)] }

/-- The line for the next call of a target, and the lines after it. -/
def nextLine? (target : String) (s : Stage) : Option (Line × List Line) :=
  match s.scripts.lookup target with
  | some [line] => some (line, [line])
  | some (line :: rest) => some (line, rest)
  | _ => none

/-- What a host without a script does: it succeeds and gives the input back. -/
def echo (input : Json) : Line :=
  { action := .reply (.raw (.record
      [("success", .bool true), ("data", .record [("echo", input)])])) }

/-- Takes a call: the line for it, and the stage after it. -/
def take (call : Call) (s : Stage) : Line × Stage :=
  let s := { s with calls := s.calls ++ [call] }
  match s.nextLine? call.target with
  | some (line, rest) =>
    (line, { s with
      scripts := s.scripts.map fun entry =>
        if entry.1 == call.target then (call.target, rest) else entry })
  | none => (echo call.input, s)

/-- Cancels a process that holds runs. -/
def cancel (name : String) (held : List String) (s : Stage) : Stage :=
  s.setRegistry name ((s.registry name).finishAll held).2

/-- Does a line have to wait? -/
def isClosed (line : Line) (s : Stage) : Bool :=
  line.gate.any fun gate => !s.openGates.contains gate

end Stage

/-- The outcome of a run. -/
abbrev Outcome := Except TransitionError Result

/-- How far a process came: to its end, or to a place where it waits, maybe for a gate, and holds runs. -/
inductive Progress where
  | finished (outcome : Outcome)
  | waiting (gate : Option String) (held : List String) (rest : Process Outcome)

/-- The answer of a line that runs a workflow. -/
def nestedReply : Outcome → Except Fault Reply
  | .ok result => .ok (.raw (.record [("success", .bool result.success), ("data", result.toJson)]))
  | .error error => .error ⟨"TransitionError", error.message, false⟩

/-- The fault of a call that took too long. -/
def timeoutFault : Fault :=
  ⟨"Timeout", "", true⟩

namespace Setting

/-- What is left of a process that waits for a line and holds runs. -/
def afterGate (setting : Setting) (action : Action) (held : List String)
    (next : Except Fault Reply → Process Outcome) : Option (Process Outcome) :=
  match action with
  | .reply reply => some (next (.ok reply))
  | .fail fault => some (next (.error fault))
  | .hang => none
  | .nested w =>
    some (((setting.runner.run w).holdingAll held).bind fun outcome => next (nestedReply outcome))

/-- Goes on with a process until it ends or has to wait. `nest` does the same for the process of a line
that runs a workflow. A call that is given no time at all is not made. Of calls inside each other it is the
outermost whose time is up first: a process that is `inside` a call waits until that one is given up, and
is then cancelled. -/
def advanceWith (setting : Setting) (registry : String) (inside : Bool)
    (nest : Process Outcome → Stage → Stage × Progress) :
    Process Outcome → Stage → Stage × Progress
  | .done outcome, s => (s, .finished outcome)
  | .tell record next, s =>
    advanceWith setting registry inside nest next { s with records := s.records ++ [record] }
  | .enter id next, s =>
    let (entered, r) := (s.registry registry).tryBegin id
    advanceWith setting registry inside nest (next entered) (s.setRegistry registry r)
  | .leave id success next, s =>
    let (state, r) := (s.registry registry).finish id success
    advanceWith setting registry inside nest (next state) (s.setRegistry registry r)
  | .ask .context _ next, s => advanceWith setting registry inside nest (next setting.context) s
  | .ask .knowledge _ next, s => advanceWith setting registry inside nest (next setting.knowledge) s
  | .ask (.sleep seconds) _ next, s =>
    advanceWith setting registry inside nest (next ()) { s with sleeps := s.sleeps ++ [seconds] }
  | .ask (.dispatch kind target input timeout) held next, s =>
    let giveUp (s : Stage) := advanceWith setting registry inside nest (next (.error timeoutFault)) s
    let givesUp := timeout.isSome && !inside
    if timeout.any (· ≤ 0.0) then giveUp s
    else
    let (line, s) := s.take ⟨kind, target, input⟩
    if s.isClosed line then
      if givesUp then giveUp s
      else match setting.afterGate line.action held next with
        | some rest => (s, .waiting line.gate held rest)
        | none => (s, .waiting none held (.ask (.dispatch kind target input timeout) held next))
    else
      match line.action with
      | .reply reply => advanceWith setting registry inside nest (next (.ok reply)) s
      | .fail fault => advanceWith setting registry inside nest (next (.error fault)) s
      | .hang =>
        if givesUp then giveUp s
        else (s, .waiting none held (.ask (.dispatch kind target input timeout) held next))
      | .nested w =>
        match nest (setting.runner.run w) s with
        | (s, .finished outcome) =>
          advanceWith setting registry inside nest (next (nestedReply outcome)) s
        | (s, .waiting gate inner rest) =>
          if givesUp then giveUp (s.cancel registry inner)
          else (s, .waiting gate (inner ++ held)
            ((rest.holdingAll held).bind fun outcome => next (nestedReply outcome)))

/-- `advanceWith` for runs inside each other up to a depth. -/
def advanceTo (setting : Setting) (registry : String) (inside : Bool) :
    (depth : Nat) → Process Outcome → Stage → Stage × Progress
  | 0 => fun p s => (s, .waiting none [] p)
  | depth + 1 => setting.advanceWith registry inside (setting.advanceTo registry true depth)

/-- How many lines there are. -/
def lineCount (s : Stage) : Nat :=
  s.scripts.foldl (fun count entry => count + entry.2.length) 0

/-- Goes on with a process until it ends or has to wait. A line that runs a workflow is not accepted inside
itself, so there are no more runs inside each other than lines and one. -/
def advance (setting : Setting) (registry : String) (p : Process Outcome) (s : Stage) :
    Stage × Progress :=
  setting.advanceTo registry false (lineCount s + 2) p s

end Setting

/-! ## One run after the other -/

/-- Runs a workflow so many times. Runs that have to wait have no result. -/
def Setting.repeatRun (setting : Setting) (w : Workflow) : (times : Nat) → Stage → List Outcome × Stage
  | 0, s => ([], s)
  | times + 1, s =>
    match setting.advance "" (setting.runner.run w) s with
    | (s, .finished outcome) =>
      let (outcomes, s) := setting.repeatRun w times s
      (outcome :: outcomes, s)
    | (s, .waiting ..) => setting.repeatRun w times s

/-! ## Runs side by side -/

/-- A run that waits. -/
structure Waiting where
  name : String
  registry : String
  gate : Option String
  rest : Process Outcome

/-- One item of a scenario. -/
inductive Cue where
  /-- Starts a run under a name, with the registry of a name. -/
  | start (name registry : String) (workflow : Workflow)
  /-- Opens a gate, which stays open. -/
  | release (gate : String)

/-- The state of a scenario: the stage, and the runs that wait, in the order in which they came to. -/
structure Scene where
  stage : Stage
  waiting : List Waiting := []

/-- What happened at one item of a scenario. -/
structure Happening where
  /-- The ids of the workflows in flight, for each registry in use. -/
  running : List (String × List String)
  /-- The new calls. -/
  calls : List Call
  /-- The runs that ended. -/
  ended : List (String × Outcome)

namespace Setting

/-- Goes on with a run, and tells whether it ended. -/
def resume (setting : Setting) (name registry : String) (p : Process Outcome) (scene : Scene) :
    List (String × Outcome) × Scene :=
  match setting.advance registry p scene.stage with
  | (s, .finished outcome) => ([(name, outcome)], { scene with stage := s })
  | (s, .waiting gate _ rest) =>
    ([], { stage := s, waiting := scene.waiting ++ [⟨name, registry, gate, rest⟩] })

/-- Goes on with runs one after the other. -/
def resumeAll (setting : Setting) : List Waiting → Scene → List (String × Outcome) × Scene
  | [], scene => ([], scene)
  | w :: rest, scene =>
    let (ended, scene) := setting.resume w.name w.registry w.rest scene
    let (others, scene) := setting.resumeAll rest scene
    (ended ++ others, scene)

/-- Carries out one item. -/
def perform (setting : Setting) (cue : Cue) (scene : Scene) : List (String × Outcome) × Scene :=
  match cue with
  | .start name registry w =>
    let stage := scene.stage.setRegistry registry (scene.stage.registry registry)
    setting.resume name registry (setting.runner.run w) { scene with stage := stage }
  | .release gate =>
    let stage := { scene.stage with openGates := gate :: scene.stage.openGates }
    let ready := scene.waiting.filter fun w => w.gate == some gate
    let others := scene.waiting.filter fun w => w.gate != some gate
    setting.resumeAll ready ⟨stage, others⟩

/-- Carries out the items of a scenario one after the other. -/
def performAll (setting : Setting) : List Cue → Scene → List Happening
  | [], _ => []
  | cue :: rest, scene =>
    let (ended, after) := setting.perform cue scene
    { running := after.stage.registries.map fun (name, r) => (name, r.runningIds)
      calls := after.stage.calls.drop scene.stage.calls.length
      ended := ended } :: setting.performAll rest after

end Setting

end Runbook.Run
