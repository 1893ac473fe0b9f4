import Runbook.Knowledge
import Runbook.Storage.Shelf
import Runbook.Workflow.Basic

/-!
# Stored workflows and knowledge entries

Workflows and knowledge entries are kept on shelves. Saving one gives it the time of saving. A workflow
without an id gets one that is made of the time; a knowledge entry that takes the place of another keeps the
time at which that one was created.
-/

namespace Runbook

variable {m : Type → Type} [Monad m]

namespace Workflow

/-- The shelf of workflows. A workflow without an id is kept under the empty key. -/
def shelf : Shelf Workflow :=
  { label := "Workflow"
    decode := decode
    encode := toJson .brief
    key := fun w => w.id.getD ""
    merge := fun _ new => new }

/-- A workflow as it is saved at a time. -/
def stamped (now : Int) (w : Workflow) : Workflow :=
  { w with
    id := some ((w.id.filter fun id => !id.isEmpty).getD s!"workflow_{now}")
    updatedAt := now }

/-- The note on a workflow that was saved. -/
def savedRecord (path : FilePath) (w : Workflow) : Log.Record :=
  { source := .storage
    level := .info
    message := "Workflow saved"
    fields := [("workflow_id", Json.ofText? w.id), ("path", .str path.write)] }

/-- Saves a workflow. -/
def save (machine : Machine m) (path : FilePath) (w : Workflow) : ExceptT StorageError m Workflow := do
  let saved ← shelf.put machine path (w.stamped machine.now)
  machine.tell (savedRecord path saved)
  return saved

end Workflow

namespace Knowledge

/-- The shelf of knowledge entries. -/
def shelf : Shelf Knowledge :=
  { label := "Knowledge"
    decode := decode
    encode := toJson
    key := Knowledge.id
    merge := fun old new => { new with createdAt := old.createdAt } }

/-- The note on an entry that was saved. -/
def savedRecord (path : FilePath) (k : Knowledge) : Log.Record :=
  { source := .storage
    level := .info
    message := "Knowledge entry saved"
    fields := [("entry_id", .str k.id), ("path", .str path.write)] }

/-- Saves an entry. -/
def save (machine : Machine m) (path : FilePath) (k : Knowledge) : ExceptT StorageError m Knowledge := do
  let saved ← shelf.put machine path { k with updatedAt := machine.now }
  machine.tell (savedRecord path saved)
  return saved

end Knowledge

/-- There is no workflow with an id. -/
structure UnknownWorkflow where
  id : String
  deriving DecidableEq, Repr

/-- The words for a workflow that there is not. -/
def UnknownWorkflow.message (e : UnknownWorkflow) : String :=
  s!"Workflow not found: {e.id}"

end Runbook
