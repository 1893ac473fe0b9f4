import Runbook.Proofs.Token.Placeholder
import Runbook.Proofs.Workflow.Decode
import Runbook.Run.Runner
import Runbook.Validation.Workflow

/-!
# What validation makes sure of

* `Passes` — a workflow in JSON against which the validation without a catalog has no error.
* `StepPasses` — what the validation makes sure of in one step; `steps_of_checkEachStep` — in a list of steps
  against which there is no error, every step is like that, and no two steps have the same id.
* `Step.Sound` — the same of the step that is decoded: it has a target, and every placeholder in a text of
  its input is a token; `sound_of_decode`, `steps_of_passes` — so it is in every workflow that passes.
-/

namespace Runbook

namespace Validation

/-- A workflow in JSON against which the validation without a catalog has no error. -/
def Passes (workflow : Json) : Prop :=
  ∃ report, (validate none workflow).outcome.value = .ok report ∧ report.isValid = true

/-! ## Findings that are no errors -/

/-- Is no finding an error? -/
def ErrorFree (found : List Finding) : Prop :=
  ∀ f ∈ found, f.problem.isError = false

theorem isValid_iff {report : Report} : report.isValid = true ↔ ErrorFree report.findings := by
  simp [Report.isValid, Report.errors, ErrorFree, List.isEmpty_iff]

@[simp] theorem errorFree_nil : ErrorFree [] := by
  simp [ErrorFree]

@[simp] theorem errorFree_cons {f : Finding} {found : List Finding} :
    ErrorFree (f :: found) ↔ f.problem.isError = false ∧ ErrorFree found := by
  simp [ErrorFree]

@[simp] theorem errorFree_append {found more : List Finding} :
    ErrorFree (found ++ more) ↔ ErrorFree found ∧ ErrorFree more := by
  simp [ErrorFree, or_imp, forall_and]

theorem errorFree_flatMap {α : Type} {f : α → List Finding} {as : List α} :
    ErrorFree (as.flatMap f) ↔ ∀ a ∈ as, ErrorFree (f a) := by
  simp only [ErrorFree, List.mem_flatMap]
  exact ⟨fun h a ha f hf => h f ⟨a, ha, hf⟩, fun h f ⟨a, ha, hf⟩ => h a ha f hf⟩

theorem errorFree_findIf {condition : Bool} {field : String} {problem : Problem}
    (herror : problem.isError = true) :
    ErrorFree (findIf condition field problem) ↔ condition = false := by
  cases condition <;> simp [findIf, herror]

theorem errorFree_malformedTokens {field text : String} :
    ErrorFree (malformedTokens field text) ↔ Placeholder.WellFormed text := by
  simp only [ErrorFree, malformedTokens, List.mem_filterMap, Placeholder.WellFormed]
  constructor
  · intro h p hp
    by_contra hparse
    have := h _ ⟨p, hp, by rw [if_neg hparse]⟩
    cases this
  · rintro h f ⟨p, hp, hf⟩
    rw [if_pos (h p hp)] at hf
    cases hf

/-! ## One step -/

/-- What the validation makes sure of in the members of a step. -/
structure StepPasses (fields : Fields) : Prop where
  id : ∃ id, stepId? fields = some id
  target : ∃ kind target, kind? fields = some kind ∧
    fields.get? kind.targetKey = some (.str target) ∧ target.isEmpty = false
  input : ∃ input, fields.get? "input" = some (.record input) ∧
    ∃ path, ∀ leaf ∈ (Json.record input).texts path, Placeholder.WellFormed leaf.2

variable {path : String} {fields : Fields}

theorem get?_of_memberOf {key : String} {json : Json} (h : memberOf key fields = json)
    (hne : json ≠ .null) : fields.get? key = some json := by
  unfold memberOf at h
  cases hget : fields.get? key with
  | none =>
    rw [hget] at h
    exact absurd h.symm hne
  | some value => rw [← h, hget]; rfl

theorem get?_of_stepId? {id : String} (h : stepId? fields = some id) :
    fields.get? "id" = some (.str id) := by
  unfold stepId? at h
  split at h
  · rename_i id' hget
    split at h
    · cases h
    · rw [hget, ← Option.some.inj h]
  · cases h

theorem name_of_kind? {kind : Step.Kind} (h : kind? fields = some kind) :
    ∃ name, fields.get? "type" = some (.str name) ∧ Step.kinds.lookup name = some kind := by
  obtain ⟨name, hname, hlookup⟩ := Option.bind_eq_some_iff.1 h
  obtain ⟨json, hget, htext⟩ := Option.bind_eq_some_iff.1 hname
  cases json with
  | str s => exact ⟨s, hget, Option.some.inj htext ▸ hlookup⟩
  | _ => cases htext

theorem stepId?_of_checkStepId (h : ErrorFree (checkStepId path (memberOf "id" fields))) :
    ∃ id, stepId? fields = some id := by
  cases hid : memberOf "id" fields with
  | str id =>
    have hget := get?_of_memberOf hid (by simp)
    by_cases hempty : id.isEmpty = true
    · simp [hid, checkStepId, hempty, Problem.isError] at h
    · exact ⟨id, by simp [stepId?, hget, hempty]⟩
  | _ => simp [hid, checkStepId, Problem.isError] at h

theorem target_of_checkTarget {kind : Step.Kind} {found : List Finding}
    (h : (checkTarget none path kind fields).outcome.value = .ok found) (free : ErrorFree found) :
    ∃ target, fields.get? kind.targetKey = some (.str target) ∧ target.isEmpty = false := by
  unfold checkTarget at h
  split at h
  · rename_i target hget
    by_cases hempty : target.isEmpty = true
    · rw [if_pos hempty] at h
      obtain rfl := Except.ok.inj h
      simp [Problem.isError] at free
    · exact ⟨target, hget, by simpa using hempty⟩
  · obtain rfl := Except.ok.inj h
    simp [Problem.isError] at free

theorem target_of_checkKind {found : List Finding}
    (h : (checkKind none path fields).outcome.value = .ok found) (free : ErrorFree found) :
    ∃ kind target, kind? fields = some kind ∧
      fields.get? kind.targetKey = some (.str target) ∧ target.isEmpty = false := by
  unfold checkKind at h
  split at h
  · rename_i kind hkind
    obtain ⟨target, htarget⟩ := target_of_checkTarget h free
    exact ⟨kind, target, hkind, htarget⟩
  · obtain rfl := Except.ok.inj h
    simp [Problem.isError] at free

theorem input_of_checkInputTokens (hrecord : isRecord (memberOf "input" fields) = true)
    (h : ErrorFree (checkInputTokens path (memberOf "input" fields))) :
    ∃ input, fields.get? "input" = some (.record input) ∧
      ∃ path, ∀ leaf ∈ (Json.record input).texts path, Placeholder.WellFormed leaf.2 := by
  cases hinput : memberOf "input" fields with
  | record input =>
    rw [hinput, checkInputTokens, errorFree_flatMap] at h
    exact ⟨input, get?_of_memberOf hinput (by simp), path, fun leaf hleaf =>
      errorFree_malformedTokens.1 (h leaf hleaf)⟩
  | _ => simp [hinput, isRecord] at hrecord

/-- A step against which there is no error has an id, a kind, a target and a sound input. -/
theorem stepPasses_of_checkStep {found : List Finding}
    (h : (checkStep none path fields).outcome.value = .ok found) (free : ErrorFree found) :
    StepPasses fields := by
  obtain ⟨atTarget, htarget, h⟩ := Attempt.value_bind_eq_ok.1 h
  obtain rfl := Except.ok.inj h
  simp only [errorFree_append] at free
  obtain ⟨⟨⟨⟨⟨⟨hid, hrecord⟩, htargetFree⟩, -⟩, -⟩, -⟩, htokens⟩ := free
  rw [errorFree_findIf rfl, Bool.not_eq_false'] at hrecord
  exact ⟨stepId?_of_checkStepId hid, target_of_checkKind htarget htargetFree,
    input_of_checkInputTokens hrecord htokens⟩

/-! ## The steps of a workflow -/

/-- The id of a step that passes, and that the step passes. -/
def PassesAs (step : Json) (id : String) : Prop :=
  ∃ fields, step = .record fields ∧ StepPasses fields ∧ stepId? fields = some id

theorem of_checkNew {seen : SeenIds} {position : Nat} {id : String} (hid : stepId? fields = some id)
    (free : ErrorFree (checkNew seen position fields).1) :
    seen.lookup id = none ∧ (checkNew seen position fields).2 = seen ++ [(id, position)] := by
  cases hseen : seen.lookup id with
  | some first => simp [checkNew, hid, hseen, Problem.isError] at free
  | none => simp [checkNew, hid, hseen]

theorem checkEachStep_record (catalog : Option Catalog) (seen : SeenIds) (position : Nat)
    (fields : Fields) (rest : List Json) :
    checkEachStep catalog seen position (.record fields :: rest) = (do
      let found ← checkStep catalog (Path.item "steps" position) fields
      let others ← checkEachStep catalog (checkNew seen position fields).2 (position + 1) rest
      return ((checkNew seen position fields).1 ++ found ++ others.1, others.2)) := rfl

/-- In a list of steps against which there is no error, every step passes, and every id is new. -/
theorem steps_of_checkEachStep {seen seen' : SeenIds} {position : Nat} {steps : List Json}
    {found : List Finding}
    (h : (checkEachStep none seen position steps).outcome.value = .ok (found, seen'))
    (free : ErrorFree found) :
    ∃ ids, List.Forall₂ PassesAs steps ids ∧ ids.Nodup ∧ ∀ id ∈ ids, seen.lookup id = none := by
  induction steps generalizing seen seen' position found with
  | nil => exact ⟨[], .nil, List.nodup_nil, by simp⟩
  | cons step rest ih =>
    cases step with
    | record fields =>
      rw [checkEachStep_record] at h
      obtain ⟨atStep, hstep, h⟩ := Attempt.value_bind_eq_ok.1 h
      obtain ⟨others, hrest, h⟩ := Attempt.value_bind_eq_ok.1 h
      obtain ⟨rfl, -⟩ := Prod.mk.inj (Except.ok.inj h)
      simp only [errorFree_append] at free
      obtain ⟨⟨hnew, hatStep⟩, hothers⟩ := free
      have passes := stepPasses_of_checkStep hstep hatStep
      obtain ⟨id, hid⟩ := passes.id
      obtain ⟨hunseen, hseen⟩ := of_checkNew hid hnew
      rw [hseen] at hrest
      obtain ⟨ids, hids, hnodup, hlookup⟩ := ih hrest hothers
      simp only [List.lookup_append, Option.or_eq_none_iff] at hlookup
      have hfresh : id ∉ ids := fun hmem => by simpa using (hlookup id hmem).2
      refine ⟨id :: ids, .cons ⟨fields, rfl, passes, hid⟩ hids, List.nodup_cons.2 ⟨hfresh, hnodup⟩, ?_⟩
      intro other hother
      rcases List.mem_cons.1 hother with rfl | hother
      · exact hunseen
      · exact (hlookup other hother).1
    | _ =>
      obtain ⟨⟨others, seen''⟩, hrest, h⟩ := Attempt.value_bind_eq_ok.1 h
      obtain ⟨rfl, rfl⟩ := Prod.mk.inj (Except.ok.inj h)
      simp [Problem.isError] at free

theorem steps_of_passes {workflow : Json} (h : Passes workflow) :
    ∃ (fields : Fields) (steps : List Json) (ids : List String),
      workflow = .record fields ∧ fields.get? "steps" = some (.list steps) ∧
      List.Forall₂ PassesAs steps ids ∧ ids.Nodup := by
  obtain ⟨report, hreport, hvalid⟩ := h
  rw [isValid_iff] at hvalid
  cases workflow with
  | record fields =>
    obtain ⟨inSteps, hsteps, hreport⟩ := Attempt.value_bind_eq_ok.1 hreport
    obtain ⟨-, -, hreport⟩ := Attempt.value_bind_eq_ok.1 hreport
    obtain rfl := Except.ok.inj hreport
    have hfree : ErrorFree inSteps := (errorFree_append.1 hvalid).2
    cases hmember : memberOf "steps" fields with
    | list steps =>
      have hget := get?_of_memberOf hmember (by simp)
      rw [hmember] at hsteps
      cases steps with
      | nil => exact ⟨fields, [], [], rfl, hget, .nil, List.nodup_nil⟩
      | cons step rest =>
        obtain ⟨⟨found, seen⟩, heach, hsteps⟩ := Attempt.value_bind_eq_ok.1 hsteps
        obtain rfl := Except.ok.inj hsteps
        obtain ⟨ids, hids, hnodup, -⟩ := steps_of_checkEachStep heach (errorFree_append.1 hfree).1
        exact ⟨fields, _, ids, rfl, hget, hids, hnodup⟩
    | _ =>
      rw [hmember] at hsteps
      obtain rfl := Except.ok.inj hsteps
      simp [Problem.isError] at hfree
  | _ =>
    obtain rfl := Except.ok.inj hreport
    simp [Problem.isError] at hvalid

end Validation

/-! ## The steps that are decoded -/

open Validation

/-- What the validation makes sure of in a step that is decoded. -/
structure Step.Sound (s : Step) : Prop where
  target : ∃ target, Run.Runner.target? s = some target
  /-- Every placeholder in a text of the input is a token. -/
  input : ∃ path, ∀ leaf ∈ (Json.record s.input).texts path, Placeholder.WellFormed leaf.2

theorem Decode.oneOf_eq_accepted {α : Type} {choices : List (String × α)} {otherwise : Fault}
    {json : Json} {a : α} :
    oneOf choices otherwise json = .accepted a ↔
      (json.text?.bind fun s => choices.lookup s) = some a := by
  unfold oneOf
  split
  · rename_i b hb
    rw [hb]
    simp
  · rename_i hnone
    rw [hnone]
    simp [Decoded.fault]

/-- A step that passes is decoded to a sound step with the same id. -/
theorem Step.sound_of_decode {json : Json} {id : String} {s : Step} (passes : PassesAs json id)
    (decoded : Step.decode json = .accepted s) : s.id = id ∧ s.Sound := by
  obtain ⟨fields, rfl, passes, hid⟩ := passes
  have decodes := Step.decodes_of_decodeFields decoded
  obtain ⟨kind, target, hkind, htarget, hne⟩ := passes.target
  obtain ⟨input, hinput, hwellFormed⟩ := passes.input
  have hsinput : Decode.map (.record input) = .accepted s.input :=
    (Decode.optional_of_get? hinput).1 decodes.input
  obtain rfl : input = s.input := Decode.Decoded.accepted.inj hsinput
  have hsid : Decode.text (.str id) = .accepted s.id :=
    (Decode.required_of_get? (get?_of_stepId? hid)).1 decodes.id
  refine ⟨(Decode.Decoded.accepted.inj hsid).symm, ⟨target, ?_⟩, hwellFormed⟩
  obtain ⟨name, hname, hlookup⟩ := name_of_kind? hkind
  have hskind := Decode.oneOf_eq_accepted.1 ((Decode.required_of_get? hname).1 decodes.kind)
  obtain rfl : kind = s.kind := Option.some.inj (hlookup.symm.trans hskind)
  have hstarget : s.target? = some target := by
    rw [Step.target?]
    cases hk : s.kind with
    | task =>
      have htask : Fields.get? "taskId" fields = some (.str target) := by rwa [hk] at htarget
      have hdecode : Decode.nullable Decode.text (.str target) = .accepted s.taskId :=
        (Decode.optional_of_get? htask).1 decodes.taskId
      exact (Decode.Decoded.accepted.inj hdecode).symm
    | handler =>
      have hhandler : Fields.get? "handlerId" fields = some (.str target) := by
        rwa [hk] at htarget
      have hdecode : Decode.nullable Decode.text (.str target) = .accepted s.handlerId :=
        (Decode.optional_of_get? hhandler).1 decodes.handlerId
      exact (Decode.Decoded.accepted.inj hdecode).symm
  rw [Run.Runner.target?, hstarget, Option.filter_some, hne]
  rfl

theorem sound_of_forall₂ {steps : List Json} {ids : List String} {ss : List Step}
    (passes : List.Forall₂ PassesAs steps ids)
    (decoded : List.Forall₂ (fun json s => Step.decode json = .accepted s) steps ss) :
    (∀ s ∈ ss, s.Sound) ∧ ss.map Step.id = ids := by
  induction passes generalizing ss with
  | nil =>
    cases decoded
    exact ⟨by simp, rfl⟩
  | cons hpasses _ ih =>
    cases decoded with
    | cons hdecoded hrest =>
      obtain ⟨hid, hsound⟩ := Step.sound_of_decode hpasses hdecoded
      obtain ⟨hsounds, hids⟩ := ih hrest
      exact ⟨List.forall_mem_cons.2 ⟨hsound, hsounds⟩, by rw [List.map_cons, hid, hids]⟩

/-- **In a workflow that passes, every step is sound, and no two steps have the same id.** -/
theorem Workflow.sound_of_passes {now : Int} {json : Json} {w : Workflow} (passes : Passes json)
    (decoded : Workflow.decode now json = .accepted w) :
    (∀ s ∈ w.steps, s.Sound) ∧ (w.steps.map Step.id).Nodup := by
  obtain ⟨fields, steps, ids, rfl, hsteps, hpasses, hnodup⟩ := steps_of_passes passes
  obtain ⟨hsound, rfl⟩ := sound_of_forall₂ hpasses (Workflow.forall₂_steps decoded hsteps)
  exact ⟨hsound, hnodup⟩

end Runbook
