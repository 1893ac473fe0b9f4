import Runbook.Command.Basic
import Runbook.Command.Failure
import Runbook.Files.Machine
import Runbook.Run.Runner
import Runbook.Settings.Basic

/-!
# Carrying commands out

`Command.execute` carries a command out on a machine. Results are written as JSON, lists with one line for
each item. A workflow is rehearsed with a host that answers each step with the input it got.
-/

namespace Runbook.Command

variable {m : Type → Type} [Monad m]

/-- A command under way. -/
abbrev Work (m : Type → Type) (α : Type) := ExceptT Failure m α

/-! ## Reading and writing -/

/-- Gives up over what a command is given. -/
def refuse {α : Type} (problem : BadInput) : Work m α :=
  throw (.badInput problem)

/-- Gives up over something that the command cannot do anything about. -/
def breakOff {α : Type} (cause : Breakdown) : Work m α :=
  throw (.breakdown cause)

/-- Writes a line of the result. -/
def say (machine : Machine m) (text : String) : Work m Unit :=
  machine.put (.line text)

/-- Writes a value as the result. -/
def present (machine : Machine m) (json : Json) : Work m Unit :=
  say machine json.pretty

/-- The text of a file. `missing` is what to do if there is none. -/
def readTextOr (machine : Machine m) (path : FilePath) (missing : Work m String) : Work m String := do
  match ← machine.read path with
  | .error .notFound => missing
  | .error error => breakOff (.file error)
  | .ok bytes => match Files.text? bytes with
    | some text => return text
    | none => breakOff .undecodable

/-- The text of a file that must be there. -/
def readText (machine : Machine m) (path : FilePath) : Work m String :=
  readTextOr machine path (refuse (.noFile path))

/-- The value in a file that must be there. -/
def readJson (machine : Machine m) (path : FilePath) : Work m Json := do
  match Json.read (← readText machine path) with
  | .ok json => return json
  | .error error => if error.isSyntax then refuse (.notJson path error) else breakOff (.refused error)

/-- The workflow in a file. -/
def readWorkflow (machine : Machine m) (path : FilePath) : Work m Workflow := do
  match (Workflow.decode machine.now (← readJson machine path)).orReject Workflow.recordName with
  | .ok w => return w
  | .error rejection => refuse (.notWorkflow path rejection)

/-- The catalog in a file, if a file is given. -/
def readCatalog (machine : Machine m) : Option FilePath → Work m (Option Catalog)
  | none => return none
  | some path => do
    match (Catalog.decode (← readJson machine path)).orReject Catalog.recordName with
    | .ok catalog => return some catalog
    | .error rejection => refuse (.notCatalog path rejection)

/-- Puts a value in a file. -/
def writeJson (machine : Machine m) (path : FilePath) (json : Json) : Work m Unit := do
  match ← machine.write path (json.pretty ++ "\n") with
  | .ok _ => return ()
  | .error error => breakOff (.file error)

/-- An operation on stored records. -/
def stored {α : Type} (x : ExceptT StorageError m α) : Work m α :=
  ExceptT.adapt (fun error => .breakdown (.storage error)) x

/-- The stored workflow of an id. -/
def requireWorkflow (machine : Machine m) (settings : Settings) (id : String) : Work m Workflow := do
  match ← stored (Workflow.shelf.get? machine settings.workflowsFile id) with
  | some w => return w
  | none => throw (.unknownWorkflow ⟨id⟩)

/-! ## Rehearsing -/

/-- The note on a step that is dispatched. -/
def dispatchRecord (kind : Step.Kind) (target : String) : Log.Record :=
  { source := .dispatch
    level := .info
    message := s!"Simulated {kind.name} dispatch"
    fields := [(s!"{kind.name}_id", .str target)] }

/-- The answer to a step: its target and its input. -/
def echo (kind : Step.Kind) (target : String) (input : Json) : Response :=
  { success := true, data := .record [(kind.targetKey, .str target), ("input", input)] }

/-- The words for knowledge that cannot be had. -/
def knowledgeFault : StorageError → Run.Fault
  | .undecodable => ⟨"Undecodable", "", false⟩
  | .refused error => ⟨"Refused", error.message, false⟩
  | .file _ => ⟨"File", "", false⟩

/-- What the host of a rehearsal answers to a request. -/
def answer (machine : Machine m) (settings : Settings) (context : List Json) :
    (r : Run.Request) → m r.Answer
  | .context => pure (Except.ok (Context.Gathered.items (context.map .raw)))
  | .knowledge => do
    let entries ← (Knowledge.shelf.list machine settings.knowledgeFile).run
    return entries.mapError knowledgeFault
  | .sleep seconds => machine.sleep seconds
  | .dispatch kind target input _ => do
    machine.tell (dispatchRecord kind target)
    return Except.ok (Run.Reply.ready (echo kind target input))

/-- Rehearses a workflow with the given context. -/
def rehearse (machine : Machine m) (settings : Settings) (context : List Json) (w : Workflow) :
    Work m Run.Result := do
  let runner : Run.Runner :=
    { now := machine.now
      timeout := settings.dispatchTimeout
      maxDelay := some settings.maxStepDelay }
  let (outcome, _) ← ExceptT.lift <|
    (runner.run w).carryOut machine.tell (answer machine settings context) Run.Registry.empty
  match outcome with
  | .ok result => return result
  | .error error => breakOff (.transition error)

/-! ## Commands -/

/-- Validates the workflow in a file. -/
def validateFile (machine : Machine m) (settings : Settings) (path : FilePath)
    (catalog : Option FilePath) : Work m ExitCode := do
  let catalog ← readCatalog machine (catalog.or settings.catalogPath)
  let json ← readJson machine path
  let report ← ExceptT.adapt (fun obstacle => .breakdown (.schema obstacle))
    (machine.carryOut (Validation.validate catalog json))
  present machine report.toJson
  return .ofSuccess report.isValid

/-- Repairs the workflow in a file, which itself is left as it is. -/
def repairFile (machine : Machine m) (path : FilePath) (output : Option FilePath) : Work m ExitCode := do
  let result := Repair.repairJson (← readJson machine path)
  machine.tellAll result.records
  if let some target := output then
    writeJson machine target result.workflow
    machine.tell (record .info "Repaired workflow written" [("path", .str target.write)])
  present machine result.toJson
  return .ok

/-- Makes a workflow of the answer of a model, and keeps it if it is asked to. -/
def materializeFile (machine : Machine m) (settings : Settings) (path : FilePath) (save : Bool) :
    Work m ExitCode := do
  let text ← readText machine path
  let catalog ← readCatalog machine settings.catalogPath
  let outcome ← ExceptT.adapt (fun failure => .breakdown (.draft failure))
    (machine.carryOut (Draft.materialize machine.now machine.now catalog text))
  if save then
    if let some w := outcome.workflow? then
      discard <| stored (w.save machine settings.workflowsFile)
  present machine outcome.toJson
  return .ofSuccess outcome.isSuccess

/-- The workflow that is to be rehearsed: a file by its name or because it is there, or else a stored one. -/
def workflowToRun (machine : Machine m) (settings : Settings) (name : String) : Work m Workflow := do
  let path := FilePath.ofText name
  if path.hasEnding ".json" then readWorkflow machine path
  else match ← machine.isFile path with
    | .ok true => readWorkflow machine path
    | .ok false => requireWorkflow machine settings name
    | .error error => breakOff (.file error)

/-- The records in a file of context. -/
def readContext (machine : Machine m) : Option FilePath → Work m (List Json)
  | none => return []
  | some path => do
    match ← readJson machine path with
    | .list items => return items
    | _ => refuse (.notContext path)

/-- Rehearses a workflow. -/
def runNamed (machine : Machine m) (settings : Settings) (name : String) (context : Option FilePath) :
    Work m ExitCode := do
  let w ← workflowToRun machine settings name
  let records ← readContext machine context
  let result ← rehearse machine settings records w
  present machine result.toJson
  return .ofSuccess result.success

/-- The line for a stored workflow. -/
def workflowLine (w : Workflow) : String :=
  let state := if w.enabled then "enabled" else "disabled"
  let id := (Json.ofText? w.id).displayBare
  s!"{id}\t{w.name}\t{w.steps.length} step(s)\t{state}"

/-- Takes a stored workflow away. -/
def removeWorkflow (machine : Machine m) (settings : Settings) (id : String) : Work m ExitCode := do
  if ← stored (Workflow.shelf.delete machine settings.workflowsFile id) then
    say machine s!"Deleted workflow {id}"
    return .ok
  else throw (.unknownWorkflow ⟨id⟩)

/-- The line for a knowledge entry. -/
def entryLine (k : Knowledge) : String :=
  let tags := ",".intercalate k.tags
  s!"{k.id}\t{k.name}\t{k.kind.name}\t{tags}"

/-- The content of a new entry: a file before a text. -/
def contentOf (machine : Machine m) (entry : NewEntry) : Work m String :=
  match entry.contentFile, entry.content with
  | some path, _ => readTextOr machine path (breakOff (.file .notFound))
  | none, some content => return content
  | none, none => refuse .noContent

/-- Keeps a new entry. An entry without an id gets one that is made of the time. -/
def addKnowledge (machine : Machine m) (settings : Settings) (entry : NewEntry) : Work m ExitCode := do
  let content ← contentOf machine entry
  let saved ← stored <| Knowledge.save machine settings.knowledgeFile
    { id := (entry.id.filter fun id => !id.isEmpty).getD s!"entry_{machine.now}"
      name := entry.name
      content := content
      kind := entry.kind
      tags := entry.tags
      createdAt := machine.now
      updatedAt := machine.now }
  let token := Token.write ⟨s!"kb_{saved.id}", some "text"⟩
  say machine s!"Saved knowledge entry {saved.id} (token: {token})"
  return .ok

/-- Takes a knowledge entry away. -/
def removeEntry (machine : Machine m) (settings : Settings) (id : String) : Work m ExitCode := do
  if ← stored (Knowledge.shelf.delete machine settings.knowledgeFile id) then
    say machine s!"Deleted knowledge entry {id}"
    return .ok
  else throw (.unknownEntry id)

/-- Writes lines one after the other. -/
def sayAll (machine : Machine m) : List String → Work m Unit
  | [] => return ()
  | text :: rest => do
    say machine text
    sayAll machine rest

/-- Carries a command out. -/
def execute (machine : Machine m) (settings : Settings) : Command → Work m ExitCode
  | .validate path catalog => validateFile machine settings path catalog
  | .repair path output => repairFile machine path output
  | .materialize path save => materializeFile machine settings path save
  | .run name context => runNamed machine settings name context
  | .listWorkflows => do
    let ws ← stored (Workflow.shelf.list machine settings.workflowsFile)
    sayAll machine (ws.map workflowLine)
    return .ok
  | .showWorkflow id => do
    let w ← requireWorkflow machine settings id
    present machine (w.toJson .brief)
    return .ok
  | .deleteWorkflow id => removeWorkflow machine settings id
  | .listEntries => do
    let ks ← stored (Knowledge.shelf.list machine settings.knowledgeFile)
    sayAll machine (ks.map entryLine)
    return .ok
  | .addEntry entry => addKnowledge machine settings entry
  | .deleteEntry id => removeEntry machine settings id

end Runbook.Command
