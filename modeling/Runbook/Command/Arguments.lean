import Runbook.Text.Digit
import Runbook.Text.Substring

/-!
# Arguments

The arguments of a command are words and options. An option may be shortened as long as it is the only one
that starts that way; its value follows it, or is attached with an equals sign. After two dashes everything
is a word; so are negative numbers, and what starts with a dash but has a blank in it.

Arguments are read from left to right, and what is wrong first decides. Asking for help, or for the version,
ends the reading.
-/

namespace Runbook.Command

/-- Why the reading of arguments ends without a command. -/
inductive Stop where
  | usage
  | help
  | version
  deriving DecidableEq, Repr

/-- What an option is for. -/
inductive OptionKind where
  | help
  | version
  /-- It has no value. -/
  | flag
  /-- It has a value, one of the choices if there are any. -/
  | value (choices : List String)
  deriving DecidableEq, Repr

/-- The options of a command by their names. -/
abbrev Options := List (String × OptionKind)

/-- An argument. -/
inductive Argument where
  | word (text : String)
  /-- An option, and the value attached to it. -/
  | option (name : String) (kind : OptionKind) (attached : Option String)
  /-- An option of one letter, and what follows the letter. -/
  | letters (letter : Char) (kind : OptionKind) (more : List Char)
  /-- An option that the command does not have. -/
  | unknown
  /-- The two dashes after which everything is a word. -/
  | separator
  deriving DecidableEq, Repr

/-! ## What an argument is -/

/-- Is the text a negative number? -/
def isNegativeNumber (text : String) : Bool :=
  match text.toList with
  | '-' :: cs =>
    let body := if cs.getLast? == some '\n' then cs.dropLast else cs
    match body.dropWhile Text.isDecimal with
    | [] => !body.isEmpty
    | '.' :: fraction => !fraction.isEmpty && fraction.all Text.isDecimal
    | _ => false
  | _ => false

/-- Splits a text at its first equals sign. -/
def splitAttached (text : String) : String × Option String :=
  let name := text.toList.takeWhile (· != '=')
  (String.ofList name,
    if name.length < text.length then some (String.ofList (text.toList.drop (name.length + 1))) else none)

/-- The option of a name with a value attached to it. A value that is attached to a letter is more letters. -/
def attach (name : String) (kind : OptionKind) (value : String) : Argument :=
  match name.toList, value.toList with
  | ['-', letter], c :: more => .letters letter kind (c :: more)
  | _, _ => .option name kind (some value)

/-- The options that a text may be short for. After a single dash and a letter, more letters may follow. -/
def candidates (options : Options) (text : String) : List Argument :=
  match text.toList with
  | '-' :: '-' :: _ =>
    let (start, attached) := splitAttached text
    (options.filter fun option => Text.startsWith start.toList option.1.toList).map
      fun (name, kind) => .option name kind attached
  | dash :: letter :: more =>
    (options.filter fun option => option.1.toList == [dash, letter]).map
      fun (_, kind) => .letters letter kind more
  | _ => []

/-- What a text that starts with a dash is, among the options of a command. -/
def classifyDashed (options : Options) (text : String) : Except Stop Argument :=
  match options.lookup text, splitAttached text with
  | some kind, _ => .ok (.option text kind none)
  | none, (name, attached) =>
    match attached, options.lookup name with
    | some value, some kind => .ok (attach name kind value)
    | _, _ =>
      if text.length == 1 then .ok (.word text)
      else match candidates options text with
        | [argument] => .ok argument
        | _ :: _ :: _ => .error .usage
        | [] =>
          if isNegativeNumber text || text.contains ' ' then .ok (.word text) else .ok .unknown

/-- What a text is, among the options of a command. -/
def classify (options : Options) (text : String) : Except Stop Argument :=
  if text.startsWith "-" then classifyDashed options text else .ok (.word text)

/-- What each of some texts is, together with the text. -/
def classifyAll (options : Options) : List String → Except Stop (List (Argument × String))
  | [] => .ok []
  | text :: rest =>
    if text == "--" then .ok ((.separator, text) :: rest.map fun word => (.word word, word))
    else do
      let argument ← classify options text
      return (argument, text) :: (← classifyAll options rest)

/-! ## Going through arguments -/

/-- What was read of the arguments of a command. -/
structure Given where
  /-- The options with their values, the later ones in front. -/
  options : List (String × String) := []
  word : Option String := none
  /-- Was there anything that the command does not take? -/
  hasMore : Bool := false
  deriving DecidableEq, Repr

/-- Takes an option that needs no value. -/
def takeAlone (kind : OptionKind) (attached : Option String) : Except Stop Unit :=
  match attached, kind with
  | some _, _ => .error .usage
  | none, .help => .error .help
  | none, .version => .error .version
  | none, _ => .ok ()

/-- Takes an option of one letter with what follows the letter, which may only be the letter again. -/
def takeLetters (letter : Char) (kind : OptionKind) (more : List Char) : Except Stop Unit :=
  if more.all (· == letter) then takeAlone kind none else .error .usage

/-- Checks the value of an option. -/
def checkValue (choices : List String) (value : String) : Except Stop Unit :=
  if choices.isEmpty || choices.contains value then .ok () else .error .usage

/-- Goes through the arguments of a command, which may take a word. -/
def take (takesWord : Bool) (given : Given) : List Argument → Except Stop Given
  | [] => .ok given
  | .unknown :: rest => take takesWord { given with hasMore := true } rest
  | .option name (.value choices) (some value) :: rest => do
    checkValue choices value
    take takesWord { given with options := (name, value) :: given.options } rest
  | .option name (.value choices) none :: .word value :: rest => do
    checkValue choices value
    take takesWord { given with options := (name, value) :: given.options } rest
  | .option _ (.value _) none :: _ => .error .usage
  | .letters letter kind more :: rest => do
    takeLetters letter kind more
    take takesWord given rest
  | .option name kind attached :: rest => do
    takeAlone kind attached
    take takesWord { given with options := (name, "") :: given.options } rest
  | .separator :: rest =>
    if takesWord && given.word.isNone && !rest.isEmpty then take takesWord given rest
    else take takesWord { given with hasMore := true } rest
  | .word text :: rest =>
    if takesWord && given.word.isNone then
      match rest with
      -- Two dashes go with the word before them, if they do not go with the word after them.
      | .separator :: rest => take takesWord { given with word := some text } rest
      | rest => take takesWord { given with word := some text } rest
    else take takesWord { given with hasMore := true } rest

/-- A command as it is read from arguments; it is told beside it whether there was anything more. -/
abbrev Reader (α : Type) := List String → Except Stop (α × Bool)

/-- The options that every command has. -/
def helpOptions : Options :=
  [("-h", .help), ("--help", .help)]

/-- Reads a command that has options of its own and perhaps a word. -/
def command {α : Type} (options : Options) (takesWord : Bool) (build : Given → Option α) : Reader α :=
  fun args => do
    let arguments ← classifyAll (helpOptions ++ options) args
    let given ← take takesWord {} (arguments.map Prod.fst)
    match build given with
    | some a => return (a, given.hasMore)
    | none => throw .usage

/-- Looks for the name of a command among arguments, and goes on with what follows it. -/
def choose {α : Type} (commands : List (String × Reader α)) : List (Argument × String) → Except Stop (α × Bool)
  | [] => .error .usage
  | (.unknown, _) :: rest => (choose commands rest).map fun (a, _) => (a, true)
  | (.option _ kind attached, _) :: rest => do
    takeAlone kind attached
    choose commands rest
  | (.letters letter kind more, _) :: rest => do
    takeLetters letter kind more
    choose commands rest
  | (.separator, _) :: _ => .error .usage
  | (.word name, _) :: rest =>
    match commands.lookup name with
    | some reader => reader (rest.map Prod.snd)
    | none => .error .usage

/-- Reads one of several commands, which is chosen by its name. -/
def oneOf {α : Type} (options : Options) (commands : List (String × Reader α)) : Reader α :=
  fun args => do choose commands (← classifyAll (helpOptions ++ options) args)

/-- Reads all arguments of a program. -/
def readAll {α : Type} (reader : Reader α) (args : List String) : Except Stop α := do
  let (a, hasMore) ← reader args
  if hasMore then throw .usage else return a

end Runbook.Command
