import Runbook.Command.Arguments
import Runbook.Files.Path
import Runbook.Knowledge
import Runbook.Text.Blank

/-!
# Commands

What can be asked of the program: to validate, repair or run a workflow, to make one of the answer of a
model, and to manage the workflows and knowledge entries that are kept.
-/

namespace Runbook

/-- A knowledge entry as it is asked for. -/
structure NewEntry where
  id : Option String
  name : String
  content : Option String
  contentFile : Option FilePath
  kind : Knowledge.Kind
  tags : List String
  deriving DecidableEq, Repr

/-- What is asked of the program. -/
inductive Command where
  | validate (path : FilePath) (catalog : Option FilePath)
  | repair (path : FilePath) (output : Option FilePath)
  /-- To make a workflow of the answer of a model, which is in a file, and perhaps to keep it. -/
  | materialize (path : FilePath) (save : Bool)
  /-- To rehearse a workflow, which is given by its id or its file. -/
  | run (workflow : String) (context : Option FilePath)
  | listWorkflows
  | showWorkflow (id : String)
  | deleteWorkflow (id : String)
  | listEntries
  | addEntry (entry : NewEntry)
  | deleteEntry (id : String)
  deriving DecidableEq, Repr

namespace Command

/-- The value of an option, the last one if it is given more than once. -/
def Given.value? (given : Given) (name : String) : Option String :=
  given.options.lookup name

/-- The path that is the value of an option. -/
def Given.path? (given : Given) (name : String) : Option FilePath :=
  (given.value? name).map FilePath.ofText

/-- The word as a path. -/
def Given.wordPath? (given : Given) : Option FilePath :=
  given.word.map FilePath.ofText

/-- Tags are set apart by commas; blanks around them do not count. -/
def tagsOf (text : String) : List String :=
  ((Text.splitOn ',' text.toList).map Text.trimChars).filterMap fun cs =>
    if cs.isEmpty then none else some (String.ofList cs)

/-- A knowledge entry as the options describe it. -/
def entryOf (given : Given) : Option NewEntry := do
  let name ← given.value? "--name"
  let kind ← Knowledge.kinds.lookup ((given.value? "--type").getD "text")
  return {
    id := given.value? "--id"
    name := name
    content := given.value? "--content"
    contentFile := given.path? "--content-file"
    kind := kind
    tags := (given.value? "--tags").elim [] tagsOf }

/-- An option with any value. -/
def free (name : String) : String × OptionKind :=
  (name, .value [])

/-- The options of a knowledge entry. -/
def entryOptions : Options :=
  [free "--id", free "--name", free "--content", free "--content-file",
    ("--type", .value (Knowledge.kinds.map Prod.fst)), free "--tags"]

/-- The commands on stored workflows. -/
def workflowCommands : List (String × Reader Command) :=
  [("list", command [] false fun _ => some .listWorkflows),
    ("show", command [] true fun given => given.word.map .showWorkflow),
    ("delete", command [] true fun given => given.word.map .deleteWorkflow)]

/-- The commands on knowledge entries. -/
def knowledgeCommands : List (String × Reader Command) :=
  [("list", command [] false fun _ => some .listEntries),
    ("add", command entryOptions false fun given => (entryOf given).map .addEntry),
    ("delete", command [] true fun given => given.word.map .deleteEntry)]

/-- All commands. -/
def commands : List (String × Reader Command) :=
  [("validate", command [free "--catalog"] true fun given =>
      given.wordPath?.map fun path => .validate path (given.path? "--catalog")),
    ("repair", command [free "--output"] true fun given =>
      given.wordPath?.map fun path => .repair path (given.path? "--output")),
    ("materialize", command [("--save", .flag)] true fun given =>
      given.wordPath?.map fun path => .materialize path (given.value? "--save").isSome),
    ("run", command [free "--context"] true fun given =>
      given.word.map fun workflow => .run workflow (given.path? "--context")),
    ("workflows", oneOf [] workflowCommands), ("kb", oneOf [] knowledgeCommands)]

/-- Reads a command from the arguments of the program. -/
def read (args : List String) : Except Stop Command :=
  readAll (oneOf [("--version", .version)] commands) args

end Command

end Runbook
