import Runbook.Command.Execute
import Runbook.Proofs.Storage.Shelf

/-!
# The codes of commands

`command.codes` are the codes with which a command may end. `Ensures good codes work` says that whatever the work comes
to is good, and that it fails with these codes alone. This goes from the parts of a sequence to the whole
(`Ensures.bind`), so it is enough to know with which codes each part of a command fails. `ensures_execute` puts the
parts together: every command ends with one of its codes.
-/

namespace Runbook

namespace Command

/-- The codes with which a command may end. -/
def codes : Command → List ExitCode
  | validate _ _ | materialize _ _ => [.ok, .error, .usage, .failed]
  | repair _ _ | addEntry _ => [.ok, .error, .usage]
  | run _ _ => [.ok, .error, .usage, .failed, .notFound]
  | listWorkflows | listEntries => [.ok, .error]
  | showWorkflow _ | deleteWorkflow _ | deleteEntry _ => [.ok, .error, .notFound]

variable {α β : Type} {codes : List ExitCode} {good : α → Prop} {fine : β → Prop}
  {work : Work (StateM Workplace) α} {next : α → Work (StateM Workplace) β}

/-- Is what work comes to good, and does it fail with these codes alone? -/
structure Ensures (good : α → Prop) (codes : List ExitCode) (work : Work (StateM Workplace) α) : Prop where
  value : ∀ {w w' : Workplace} {a : α}, w.carryOut work = (.ok a, w') → good a
  failure : ∀ {w w' : Workplace} {failure : Failure}, w.carryOut work = (.error failure, w') → failure.exitCode ∈ codes

/-- Does work fail with these codes alone? -/
abbrev FailsWith (codes : List ExitCode) (work : Work (StateM Workplace) α) : Prop :=
  Ensures (fun _ => True) codes work

theorem Ensures.bind (hwork : Ensures good codes work) (hnext : ∀ a, good a → Ensures fine codes (next a)) :
    Ensures fine codes (work >>= next) := by
  constructor
  · intro w w' b h
    obtain ⟨a, w'', hfirst, hrest⟩ := Workplace.of_carryOut_bind h
    exact (hnext a (hwork.value hfirst)).value hrest
  · intro w w' failure h
    rw [Workplace.carryOut_bind_eq] at h
    rcases hrun : w.carryOut work with ⟨e | a, w''⟩
    · rw [hrun] at h
      obtain rfl := Except.error.inj (Prod.mk.inj h).1
      exact hwork.failure hrun
    · rw [hrun] at h
      exact (hnext a (hwork.value hrun)).failure h

theorem ensures_pure {a : α} (h : good a) : Ensures good codes (pure a) where
  value hrun := Except.ok.inj (Prod.mk.inj hrun).1 ▸ h
  failure hrun := nomatch hrun

theorem ensures_throw {failure : Failure} (h : failure.exitCode ∈ codes) :
    Ensures good codes (throw failure : Work (StateM Workplace) α) where
  value hrun := nomatch hrun
  failure hrun := Except.error.inj (Prod.mk.inj hrun).1 ▸ h

theorem failsWith_lift (x : StateM Workplace α) : FailsWith codes (ExceptT.lift x : Work (StateM Workplace) α) where
  value _ := trivial
  failure hrun := nomatch hrun

theorem failsWith_discard (h : FailsWith codes work) : FailsWith codes (discard work) :=
  h.bind fun _ _ => ensures_pure trivial

/-- Failures that are told under another name end with the code of that. -/
theorem failsWith_adapt {ε : Type} {f : ε → Failure} (h : ∀ e, (f e).exitCode ∈ codes)
    (x : ExceptT ε (StateM Workplace) α) : FailsWith codes (ExceptT.adapt f x) where
  value _ := trivial
  failure {w w' failure} hrun := by
    have hmap : (w.carryOut (ExceptT.adapt f x)).1 = (w.carryOut x).1.mapError f := rfl
    rw [hrun] at hmap
    cases hx : (w.carryOut x).1 with
    | ok a => simp [hx, Except.mapError] at hmap
    | error e =>
      rw [hx] at hmap
      exact Except.error.inj hmap ▸ h e

variable (machine : Machine (StateM Workplace)) (settings : Settings) (path : FilePath)

/-! ## Reading and writing -/

theorem failsWith_readTextOr {missing : Work (StateM Workplace) String} (herror : .error ∈ codes)
    (hmissing : FailsWith codes missing) : FailsWith codes (readTextOr machine path missing) := by
  refine (failsWith_lift (machine.read path)).bind fun r _ => ?_
  split
  · exact hmissing
  · exact ensures_throw herror
  · split
    · exact ensures_pure trivial
    · exact ensures_throw herror

section

variable (herror : .error ∈ codes) (husage : .usage ∈ codes)

include herror

theorem failsWith_stored (x : ExceptT StorageError (StateM Workplace) α) : FailsWith codes (stored x) :=
  failsWith_adapt (fun _ => herror) x

theorem failsWith_writeJson (json : Json) : FailsWith codes (writeJson machine path json) := by
  refine (failsWith_lift (machine.write path _)).bind fun r _ => ?_
  split
  · exact ensures_pure trivial
  · exact ensures_throw herror

theorem failsWith_requireWorkflow (hnotFound : .notFound ∈ codes) (id : String) :
    FailsWith codes (requireWorkflow machine settings id) := by
  refine (failsWith_stored herror _).bind fun found _ => ?_
  split
  · exact ensures_pure trivial
  · exact ensures_throw hnotFound

theorem failsWith_rehearse (context : List Json) (w : Workflow) :
    FailsWith codes (rehearse machine settings context w) := by
  refine (failsWith_lift _).bind fun r _ => ?_
  split
  split
  · exact ensures_pure trivial
  · exact ensures_throw herror

include husage

theorem failsWith_readText : FailsWith codes (readText machine path) :=
  failsWith_readTextOr machine path herror (ensures_throw husage)

theorem failsWith_readJson : FailsWith codes (readJson machine path) := by
  refine (failsWith_readText machine path herror husage).bind fun text _ => ?_
  split
  · exact ensures_pure trivial
  · split
    · exact ensures_throw husage
    · exact ensures_throw herror

theorem failsWith_readWorkflow : FailsWith codes (readWorkflow machine path) := by
  refine (failsWith_readJson machine path herror husage).bind fun json _ => ?_
  split
  · exact ensures_pure trivial
  · exact ensures_throw husage

theorem failsWith_readCatalog (path : Option FilePath) : FailsWith codes (readCatalog machine path) := by
  cases path with
  | none => exact ensures_pure trivial
  | some path =>
    refine (failsWith_readJson machine path herror husage).bind fun json _ => ?_
    split
    · exact ensures_pure trivial
    · exact ensures_throw husage

theorem failsWith_readContext (path : Option FilePath) : FailsWith codes (readContext machine path) := by
  cases path with
  | none => exact ensures_pure trivial
  | some path =>
    refine (failsWith_readJson machine path herror husage).bind fun json _ => ?_
    split
    · exact ensures_pure trivial
    · exact ensures_throw husage

theorem failsWith_contentOf (entry : NewEntry) : FailsWith codes (contentOf machine entry) := by
  unfold contentOf
  split
  · exact failsWith_readTextOr machine _ herror (ensures_throw herror)
  · exact ensures_pure trivial
  · exact ensures_throw husage

theorem failsWith_workflowToRun (hnotFound : .notFound ∈ codes) (name : String) :
    FailsWith codes (workflowToRun machine settings name) := by
  unfold workflowToRun
  dsimp only
  split
  · exact failsWith_readWorkflow machine _ herror husage
  · refine (failsWith_lift (machine.isFile _)).bind fun r _ => ?_
    split
    · exact failsWith_readWorkflow machine _ herror husage
    · exact failsWith_requireWorkflow machine settings herror hnotFound name
    · exact ensures_throw herror

end

theorem failsWith_sayAll (lines : List String) : FailsWith codes (sayAll machine lines) := by
  induction lines with
  | nil => exact ensures_pure trivial
  | cons text rest ih => exact (failsWith_lift (machine.put (.line text))).bind fun _ _ => ih

/-! ## Commands -/

theorem ExitCode.toNat_le (code : ExitCode) : code.toNat ≤ 4 := by
  cases code <;> decide

theorem ofSuccess_mem (hok : .ok ∈ codes) (hfailed : .failed ∈ codes) (success : Bool) :
    ExitCode.ofSuccess success ∈ codes := by
  cases success
  · exact hfailed
  · exact hok

section

variable (hok : .ok ∈ codes) (herror : .error ∈ codes) (husage : .usage ∈ codes) (hfailed : .failed ∈ codes)

include hok herror

theorem ensures_listWorkflows : Ensures (· ∈ codes) codes (execute machine settings .listWorkflows) := by
  refine (failsWith_stored herror _).bind fun ws _ => ?_
  exact (failsWith_sayAll machine _).bind fun _ _ => ensures_pure hok

theorem ensures_listEntries : Ensures (· ∈ codes) codes (execute machine settings .listEntries) := by
  refine (failsWith_stored herror _).bind fun ks _ => ?_
  exact (failsWith_sayAll machine _).bind fun _ _ => ensures_pure hok

theorem ensures_showWorkflow (hnotFound : .notFound ∈ codes) (id : String) :
    Ensures (· ∈ codes) codes (execute machine settings (.showWorkflow id)) := by
  refine (failsWith_requireWorkflow machine settings herror hnotFound id).bind fun w _ => ?_
  exact (failsWith_lift _).bind fun _ _ => ensures_pure hok

theorem ensures_removeWorkflow (hnotFound : .notFound ∈ codes) (id : String) :
    Ensures (· ∈ codes) codes (removeWorkflow machine settings id) := by
  refine (failsWith_stored herror _).bind fun removed _ => ?_
  split
  · exact (failsWith_lift _).bind fun _ _ => ensures_pure hok
  · exact ensures_throw hnotFound

theorem ensures_removeEntry (hnotFound : .notFound ∈ codes) (id : String) :
    Ensures (· ∈ codes) codes (removeEntry machine settings id) := by
  refine (failsWith_stored herror _).bind fun removed _ => ?_
  split
  · exact (failsWith_lift _).bind fun _ _ => ensures_pure hok
  · exact ensures_throw hnotFound

include husage

theorem ensures_repairFile (output : Option FilePath) :
    Ensures (· ∈ codes) codes (repairFile machine path output) := by
  refine (failsWith_readJson machine path herror husage).bind fun json _ => ?_
  refine (failsWith_lift _).bind fun _ _ => ?_
  cases output with
  | none => exact (failsWith_lift _).bind fun _ _ => ensures_pure hok
  | some target =>
    refine (failsWith_writeJson machine target herror _).bind fun _ _ => ?_
    refine (failsWith_lift _).bind fun _ _ => ?_
    exact (failsWith_lift _).bind fun _ _ => ensures_pure hok

theorem ensures_addKnowledge (entry : NewEntry) : Ensures (· ∈ codes) codes (addKnowledge machine settings entry) := by
  refine (failsWith_contentOf machine herror husage entry).bind fun content _ => ?_
  refine (failsWith_stored herror _).bind fun saved _ => ?_
  exact (failsWith_lift _).bind fun _ _ => ensures_pure hok

include hfailed

theorem ensures_validateFile (catalog : Option FilePath) :
    Ensures (· ∈ codes) codes (validateFile machine settings path catalog) := by
  refine (failsWith_readCatalog machine herror husage _).bind fun catalog _ => ?_
  refine (failsWith_readJson machine path herror husage).bind fun json _ => ?_
  refine (failsWith_adapt (fun _ => herror) _).bind fun report _ => ?_
  exact (failsWith_lift _).bind fun _ _ => ensures_pure (ofSuccess_mem hok hfailed _)

theorem ensures_materializeFile (save : Bool) :
    Ensures (· ∈ codes) codes (materializeFile machine settings path save) := by
  refine (failsWith_readText machine path herror husage).bind fun text _ => ?_
  refine (failsWith_readCatalog machine herror husage _).bind fun catalog _ => ?_
  refine (failsWith_adapt (fun _ => herror) _).bind fun outcome _ => ?_
  have hend : Ensures (· ∈ codes) codes (do
      present machine outcome.toJson
      return ExitCode.ofSuccess outcome.isSuccess) :=
    (failsWith_lift _).bind fun _ _ => ensures_pure (ofSuccess_mem hok hfailed _)
  split
  · split
    · exact (failsWith_discard (failsWith_stored herror _)).bind fun _ _ => hend
    · exact hend
  · exact hend

theorem ensures_runNamed (hnotFound : .notFound ∈ codes) (name : String) (context : Option FilePath) :
    Ensures (· ∈ codes) codes (runNamed machine settings name context) := by
  unfold runNamed
  refine (failsWith_workflowToRun machine settings herror husage hnotFound name).bind fun w _ => ?_
  refine (failsWith_readContext machine herror husage context).bind fun records _ => ?_
  refine (failsWith_rehearse machine settings herror records w).bind fun result _ => ?_
  exact (failsWith_lift _).bind fun _ _ => ensures_pure (ofSuccess_mem hok hfailed _)

end

/-- Every command ends with one of its codes, whatever machine it is carried out on. -/
theorem ensures_execute (command : Command) :
    Ensures (· ∈ command.codes) command.codes (command.execute machine settings) := by
  have hok : .ok ∈ command.codes := by cases command <;> simp [Command.codes]
  have herror : .error ∈ command.codes := by cases command <;> simp [Command.codes]
  unfold execute
  cases command with
  | validate path catalog =>
    exact ensures_validateFile machine settings path hok herror (by simp [Command.codes]) (by simp [Command.codes])
      catalog
  | repair path output => exact ensures_repairFile machine path hok herror (by simp [Command.codes]) output
  | materialize path save =>
    exact ensures_materializeFile machine settings path hok herror (by simp [Command.codes]) (by simp [Command.codes])
      save
  | run name context =>
    exact ensures_runNamed machine settings hok herror (by simp [Command.codes]) (by simp [Command.codes])
      (by simp [Command.codes]) name context
  | listWorkflows => exact ensures_listWorkflows machine settings hok herror
  | showWorkflow id => exact ensures_showWorkflow machine settings hok herror (by simp [Command.codes]) id
  | deleteWorkflow id => exact ensures_removeWorkflow machine settings hok herror (by simp [Command.codes]) id
  | listEntries => exact ensures_listEntries machine settings hok herror
  | addEntry entry => exact ensures_addKnowledge machine settings hok herror (by simp [Command.codes]) entry
  | deleteEntry id => exact ensures_removeEntry machine settings hok herror (by simp [Command.codes]) id

end Command

end Runbook
