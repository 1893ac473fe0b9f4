import Runbook.Command.Program
import Runbook.Proofs.Command.Codes
import Runbook.Proofs.Settings.Values

/-!
# How the program ends

A call goes by its settings (`run_call`). If they are not what they should be, the call says so and ends
(`run_call_of_not_valid`); else the command is carried out, and ends with one of its codes (`exists_code_of_isLevel`).
That the name of the log level names a level is asked too late: if it does not, there is no code at all
(`run_call_of_not_isLevel`). `call_ends` puts these together.
-/

namespace Runbook

namespace Program

variable {environment : List (String × String)} {file : Settings.Variables} {now : Int} {w : Workplace}

/-- The text of the file of definitions on a disk, if there is such a file; an error if its bytes are no text. -/
def settingsText (d : Disk) : Except Unit (Option String) :=
  match d.read Settings.fileName with
  | .error _ => .ok none
  | .ok bytes => match Files.text? bytes with
    | some text => .ok (some text)
    | none => .error ()

/-- The variables of the file of definitions on a disk. -/
def settingsFile (environment : List (String × String)) (d : Disk) : Except Unit Settings.Variables :=
  (settingsText d).map fun text => text.elim [] (Settings.defined environment)

theorem run_putAll (outputs : List Output) (w : Workplace) :
    (putAll (Machine.onDisk now) outputs).run w = ((), { w with outputs := w.outputs ++ outputs }) := by
  induction outputs generalizing w with
  | nil =>
    show ((), w) = _
    simp
  | cons output rest ih =>
    rw [putAll, StateT.run_bind]
    show (putAll (Machine.onDisk now) rest).run { w with outputs := w.outputs ++ [output] } = _
    rw [ih]
    simp

/-- A command that is carried out ends with one of its codes. -/
theorem exists_code_of_perform (machine : Machine (StateM Workplace)) {settings : Settings} (command : Command)
    (h : Settings.IsLevel settings.logLevel) (w : Workplace) :
    ∃ code ∈ command.codes, ((perform machine settings command).run w).1 = .exited code := by
  obtain ⟨severity, hseverity⟩ := Option.isSome_iff_exists.1 (Settings.threshold?_isSome_iff.2 h)
  have hends := command.ensures_execute (machine.withThreshold severity) settings
  rw [perform, hseverity]
  dsimp only
  rw [StateT.run_bind]
  rcases hrun : (ExceptT.run (command.execute (machine.withThreshold severity) settings)).run w with
    ⟨failure | code, w'⟩
  · exact ⟨failure.exitCode, hends.failure hrun, rfl⟩
  · exact ⟨code, hends.value hrun, rfl⟩

theorem perform_of_not_isLevel (machine : Machine (StateM Workplace)) {settings : Settings} (command : Command)
    (h : ¬ Settings.IsLevel settings.logLevel) :
    perform machine settings command = pure (.unknownLevel settings.logLevel) := by
  rw [← Settings.threshold?_isSome_iff, Option.not_isSome_iff_eq_none] at h
  rw [perform, h]

theorem run_definitionText (w : Workplace) :
    (definitionText (Machine.onDisk now)).run w = pure (settingsText w.disk, w) := by
  have hread : ((Machine.onDisk now).read Settings.fileName).run w = (w.disk.read Settings.fileName, w) := rfl
  rw [definitionText, StateT.run_bind, hread, settingsText]
  cases w.disk.read Settings.fileName with
  | error e => rfl
  | ok bytes =>
    dsimp only [bind]
    cases Files.text? bytes <;> rfl

section

variable {args : List String} {command : Command} (hargs : Command.read args = .ok command)

include hargs

/-- A call goes by its settings. -/
theorem run_call : (call (Machine.onDisk now) environment args).run w =
      match settingsFile environment w.disk with
      | .error _ => (.undecodableSettings, w)
      | .ok file =>
        match (Settings.decodeFields (Settings.members environment file)).orReject Settings.recordName with
        | .ok settings => (perform (Machine.onDisk now) settings command).run w
        | .error rejection => (.exited .usage, { w with outputs := w.outputs ++ settingsOutputs rejection }) := by
  rw [call, hargs]
  dsimp only
  rw [StateT.run_bind, run_definitionText, pure_bind, settingsFile]
  cases settingsText w.disk with
  | error e => rfl
  | ok text =>
    dsimp only [Except.map, Settings.decode]
    cases (Settings.decodeFields (Settings.members environment
      (text.elim [] (Settings.defined environment)))).orReject Settings.recordName with
    | ok settings => rfl
    | error rejection =>
      dsimp only
      rw [StateT.run_bind, run_putAll]
      rfl

variable (hfile : settingsFile environment w.disk = .ok file)

include hfile

theorem run_call_of_not_valid (h : ¬ Settings.Valid environment file) :
    ∃ rejection, (call (Machine.onDisk now) environment args).run w =
      (.exited .usage, { w with outputs := w.outputs ++ settingsOutputs rejection }) := by
  cases hdecode : Settings.decodeFields (Settings.members environment file) with
  | accepted s => exact absurd (Settings.exists_decodeFields_iff.1 ⟨s, hdecode⟩) h
  | rejected issues =>
    refine ⟨⟨Settings.recordName, issues⟩, ?_⟩
    simp only [run_call hargs, hfile, hdecode, Decode.Decoded.orReject]

/-- With settings that are what they should be, a call performs the command. -/
theorem run_call_of_valid (now : Int) (hvalid : Settings.Valid environment file) : ∃ settings : Settings,
    settings.logLevel = Settings.levelName environment file ∧
      (call (Machine.onDisk now) environment args).run w = (perform (Machine.onDisk now) settings command).run w := by
  obtain ⟨settings, hdecode⟩ := Settings.exists_decodeFields_iff.2 hvalid
  refine ⟨settings, Settings.logLevel_of_decodeFields hdecode, ?_⟩
  simp only [run_call hargs, hfile, hdecode, Decode.Decoded.orReject]

theorem exists_code_of_isLevel (hvalid : Settings.Valid environment file)
    (h : Settings.IsLevel (Settings.levelName environment file)) :
    ∃ code ∈ command.codes, ((call (Machine.onDisk now) environment args).run w).1 = .exited code := by
  obtain ⟨settings, hlevel, hrun⟩ := run_call_of_valid hargs hfile now hvalid
  rw [hrun]
  exact exists_code_of_perform (Machine.onDisk now) command (hlevel ▸ h) w

theorem run_call_of_not_isLevel (hvalid : Settings.Valid environment file)
    (h : ¬ Settings.IsLevel (Settings.levelName environment file)) :
    (call (Machine.onDisk now) environment args).run w =
      (.unknownLevel (Settings.levelName environment file), w) := by
  obtain ⟨settings, hlevel, hrun⟩ := run_call_of_valid hargs hfile now hvalid
  rw [hrun, ← hlevel, perform_of_not_isLevel _ command (hlevel ▸ h)]
  rfl

end

/-- **A call with a command ends with an exit code, unless there is no such log level.** If settings are not what they
should be, the code is that of wrong usage, and nothing is done but to say so. Otherwise the command is carried out and
ends with one of its codes, whatever is in the files. The two exceptions are a file of definitions that is no text, and
a log level that there is not: the call breaks off before anything is done. -/
theorem call_ends (now : Int) (environment : List (String × String)) {args : List String} {command : Command}
    (hargs : Command.read args = .ok command) (w : Workplace) :
    (settingsFile environment w.disk = .error () →
      (call (Machine.onDisk now) environment args).run w = (.undecodableSettings, w)) ∧
    ∀ file, settingsFile environment w.disk = .ok file →
      (¬ Settings.Valid environment file → ∃ rejection, (call (Machine.onDisk now) environment args).run w =
        (.exited .usage, { w with outputs := w.outputs ++ settingsOutputs rejection })) ∧
      (Settings.Valid environment file →
        (Settings.IsLevel (Settings.levelName environment file) → ∃ code ∈ command.codes, code.toNat ≤ 4 ∧
          ((call (Machine.onDisk now) environment args).run w).1 = .exited code) ∧
        (¬ Settings.IsLevel (Settings.levelName environment file) →
          (call (Machine.onDisk now) environment args).run w =
            (.unknownLevel (Settings.levelName environment file), w))) := by
  refine ⟨fun herror => ?_, fun file hfile => ⟨run_call_of_not_valid hargs hfile, fun hvalid =>
    ⟨fun hlevel => ?_, run_call_of_not_isLevel hargs hfile hvalid⟩⟩⟩
  · rw [run_call hargs, herror]
  · obtain ⟨code, hmem, hcode⟩ := exists_code_of_isLevel hargs hfile hvalid hlevel
    exact ⟨code, hmem, code.toNat_le, hcode⟩

/-- A number that is none ends with the code of wrong usage, and no settings at all are fine. -/
theorem call_ends_soon :
    Command.read ["workflows", "list"] = .ok .listWorkflows ∧
    ((call (Machine.onDisk 0) [("STEPFLOW_MAX_STEP_DELAY_SECONDS", "soon")] ["workflows", "list"]).run ⟨{}, []⟩).1 =
      .exited .usage ∧
    ∃ code ∈ [Command.ExitCode.ok, .error],
      ((call (Machine.onDisk 0) [] ["workflows", "list"]).run ⟨{}, []⟩).1 = .exited code := by
  have hargs : Command.read ["workflows", "list"] = .ok .listWorkflows := by decide +kernel
  have htext : settingsText {} = .ok none := by decide +kernel
  have hfile (environment : List (String × String)) : settingsFile environment {} = .ok [] := by
    rw [settingsFile, htext]
    rfl
  have hinvalid : ¬ Settings.Valid [("STEPFLOW_MAX_STEP_DELAY_SECONDS", "soon")] [] := by
    intro h
    obtain ⟨x, hx, -⟩ := h.delay "soon" (by simp [Settings.given?, Settings.valueOf?])
    cases hx
  have hvalid : Settings.Valid [] [] :=
    ⟨by simp [Settings.given?, Settings.valueOf?], by simp [Settings.given?, Settings.valueOf?]⟩
  have hlevel : Settings.IsLevel (Settings.levelName [] []) := by
    have hname : Settings.levelName [] [] = "INFO" := by simp [Settings.levelName, Settings.given?, Settings.valueOf?]
    rw [hname]
    decide +kernel
  refine ⟨hargs, ?_, ?_⟩
  · obtain ⟨rejection, hrun⟩ := ((call_ends 0 _ hargs ⟨{}, []⟩).2 [] (hfile _)).1 hinvalid
    rw [hrun]
  · obtain ⟨code, hmem, -, hcode⟩ := (((call_ends 0 [] hargs ⟨{}, []⟩).2 [] (hfile _)).2 hvalid).1 hlevel
    exact ⟨code, hmem, hcode⟩

/-- A log level that there is not ends the call with no code. -/
theorem call_unknownLevel :
    ((call (Machine.onDisk 0) [("STEPFLOW_LOG_LEVEL", "verbose")] ["workflows", "list"]).run ⟨{}, []⟩).1 =
      .unknownLevel "verbose" := by
  decide +kernel

end Program

end Runbook
