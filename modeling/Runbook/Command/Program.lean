import Runbook.Command.Execute

/-!
# The program

The program reads its arguments, then its settings, and carries out the command with them. Each of the
three can put an end to it. Log records below the level of the settings are not written.
-/

namespace Runbook

/-- How a call of the program ends. -/
inductive Ending where
  /-- The arguments are no command. -/
  | stopped (stop : Command.Stop)
  | exited (code : Command.ExitCode)
  /-- The bytes of the file of definitions are no text. -/
  | undecodableSettings
  /-- There is no log level of this name. -/
  | unknownLevel (name : String)
  deriving DecidableEq, Repr

namespace Program

variable {m : Type → Type} [Monad m]

/-- The name of the program and its version. -/
def version : String := "stepflow 0.1.0"

/-- How the program is used. -/
def usage : String :=
  "usage: stepflow [-h] [--version] \x7bvalidate,repair,materialize,run,workflows,kb\x7d ..."

/-- What is said to arguments that are no command. -/
def stopOutputs : Command.Stop → List Output
  | .usage => [.remark usage]
  | .help => [.line usage]
  | .version => [.line version]

/-- Writes several things one after the other. -/
def putAll (machine : Machine m) : List Output → m Unit
  | [] => pure ()
  | output :: rest => do
    machine.put output
    putAll machine rest

/-- The text of the file of definitions: nothing if there is no such file, and an error if its bytes are
no text. -/
def definitionText (machine : Machine m) : m (Except Unit (Option String)) := do
  match ← machine.read Settings.fileName with
  | .error _ => return .ok none
  | .ok bytes => match Files.text? bytes with
    | some text => return .ok (some text)
    | none => return .error ()

/-- What is said about settings that do not decode. -/
def settingsOutputs (rejection : Decode.Rejection) : List Output :=
  [.remark "Configuration error (check your environment / .env):", .remark rejection.summary]

/-- Carries a command out with its settings. -/
def perform (machine : Machine m) (settings : Settings) (command : Command) : m Ending := do
  match settings.threshold? with
  | none => return .unknownLevel settings.logLevel
  | some severity =>
    let machine := machine.withThreshold severity
    match ← (command.execute machine settings).run with
    | .ok code => return .exited code
    | .error failure =>
      putAll machine failure.outputs
      return .exited failure.exitCode

/-- Calls the program in an environment with arguments. -/
def call (machine : Machine m) (environment : List (String × String)) (args : List String) :
    m Ending := do
  match Command.read args with
  | .error stop =>
    putAll machine (stopOutputs stop)
    return .stopped stop
  | .ok command =>
    match ← definitionText machine with
    | .error _ => return .undecodableSettings
    | .ok text => match (Settings.decode environment text).orReject Settings.recordName with
      | .ok settings => perform machine settings command
      | .error rejection =>
        putAll machine (settingsOutputs rejection)
        return .exited .usage

end Program

end Runbook
