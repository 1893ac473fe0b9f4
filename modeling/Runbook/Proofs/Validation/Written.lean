import Runbook.Proofs.Json.Walk
import Runbook.Proofs.Reference.Views
import Runbook.Proofs.Validation.Checks

/-!
# A workflow that passes passes again

What is odd in a workflow in JSON, the decoding may mend or fill in, and writing the workflow leaves out what has
no value. None of this makes an error: `passes_toJson` says that a workflow that passes and is accepted passes as
it is written. So it is part by part, for triggers, websites and steps (`errorFree_checkTrigger`,
`errorFree_checkWebsites`, `checkPasses_checkStep`), and for the references between the steps, which are those of
the workflow.
-/

namespace Runbook

open Decode

/-! ## Delays -/

open Float.Model in
theorem unpack_zero : (0.0 : Float).toModel.unpack = .zero .positive := by
  have hbits : (0.0 : Float).toModel.toBits = 0 := by decide +kernel
  show UnpackedFloat.unpack Format.binary64 (Float.toModel 0.0).toBits.toBitVec = _
  rw [hbits]
  rfl

open Float.Model in
/-- A delay that is no less than zero is not below zero. -/
theorem not_lt_zero_of_zero_le {x : Float} (h : 0.0 ≤ x) : ¬ x < 0.0 := by
  have hle : (UnpackedFloat.compare (.zero .positive) x.toModel.unpack).any Ordering.isLE = true := by
    rw [← unpack_zero]
    exact of_decide_eq_true h
  intro hlt
  have hlt : (UnpackedFloat.compare x.toModel.unpack (.zero .positive) == some .lt) = true := by
    rw [← unpack_zero]
    exact of_decide_eq_true hlt
  cases hx : x.toModel.unpack with
  | notANumber | zero sign =>
    rw [hx] at hlt
    cases hlt
  | infinity sign | finite sign mantissa exponent hmantissa =>
    rw [hx] at hle hlt
    cases sign with
    | negative => cases hle
    | positive => cases hlt

namespace Validation

variable {path : String} {fields : Fields}

/-! ## What is found in parts that were decoded -/

theorem isOddText_ofText? (text? : Option String) : isOddText (Json.ofText? text?) = false := by
  cases text? <;> rfl

/-- There is no error in a trigger as it is written. -/
theorem errorFree_checkTrigger (path : String) {json : Json} {t : Trigger} (h : Trigger.decode json = .accepted t) :
    ErrorFree (checkTrigger path (t.toJson .brief)) := by
  have htype : Fields.get? "type" (briefFields t.members t.extras) = some (.str t.kind.name) :=
    get?_of_memberOf (Trigger.memberOf_written h (by decide)) (by simp)
  have hknown : triggerTypes.contains t.kind.name = true := by
    cases t.kind <;> decide
  have hfield : ∀ field, triggerField? t.kind.name = some field →
      isOddText (memberOf field.name (briefFields t.members t.extras)) = false := by
    intro field _
    have hkey : field.name ∈ Trigger.fieldNames.filterMap List.head? := by
      cases field <;> decide
    rw [Trigger.memberOf_written h hkey]
    cases field <;> exact isOddText_ofText? _
  rw [Trigger.toJson_brief, checkTrigger]
  simp only [htype, errorFree_append]
  refine ⟨⟨?_, ?_⟩, ?_⟩
  · rw [errorFree_findIf rfl, hknown]
    rfl
  · split
    · rename_i field hsome
      rw [errorFree_findIf rfl]
      exact hfield field hsome
    · exact errorFree_nil
  · exact errorFree_findIf_warning rfl

/-- There is no error in the websites as they are written. -/
theorem errorFree_checkWebsites (w : Websites) : ErrorFree (checkWebsites w.toJson) := by
  have hscope : (((w.toJson.get? "type").bind Json.text?).bind fun s => Websites.scopes.lookup s) =
      some w.scope := by
    show Websites.scopes.lookup w.scope.name = _
    cases w.scope <;> decide
  rw [checkWebsites, hscope]
  cases w.scope with
  | all => exact errorFree_nil
  | specific | exclude => exact errorFree_findIf_warning rfl

/-- There is no error in a retry rule that is accepted. -/
theorem errorFree_checkRetry (path : String) {json : Json} {retry : Retry} (h : Retry.decode json = .accepted retry) :
    ErrorFree (checkRetry path json) := by
  unfold checkRetry
  split
  · exact errorFree_nil
  · rw [h]
    exact errorFree_nil

/-! ## Steps -/

/-- What is needed of a step so that there is no error in it as it is written. -/
structure StepWritable (s : Step) : Prop where
  sound : s.Sound
  decent : s.Decent
  id : s.id ≠ ""
  condition : ∀ text, s.condition = some text → Placeholder.WellFormed text

theorem checkPasses_checkKind {s : Step} (h : StepWritable s) (path : String) :
    CheckPasses (checkKind none path (briefFields s.members s.extras)) := by
  obtain ⟨target, htarget⟩ := h.sound.target
  obtain ⟨htarget, hne⟩ := Option.filter_eq_some_iff.1 htarget
  have htype : Fields.get? "type" (briefFields s.members s.extras) = some (.str s.kind.name) :=
    get?_of_memberOf (h.decent.memberOf_written (by decide)) (by simp)
  have hkind : kind? (briefFields s.members s.extras) = some s.kind := by
    rw [kind?, htype]
    show Step.kinds.lookup s.kind.name = _
    cases s.kind <;> rfl
  have hkey : s.kind.targetKey ∈ Step.fieldNames.filterMap List.head? := by
    cases s.kind <;> decide
  have hmember : memberOf s.kind.targetKey s.members = .str target := by
    rw [Step.target?] at htarget
    cases hk : s.kind with
    | task | handler =>
      rw [hk] at htarget
      exact congrArg Json.ofText? htarget
  have hget : Fields.get? s.kind.targetKey (briefFields s.members s.extras) = some (.str target) :=
    get?_of_memberOf ((h.decent.memberOf_written hkey).trans hmember) (by simp)
  refine ⟨[], ?_, errorFree_nil⟩
  simp only [checkKind, hkind, checkTarget, hget]
  rw [if_neg (by simpa using hne)]
  rfl

/-- There is no error in a step as it is written. -/
theorem checkPasses_checkStep {s : Step} (h : StepWritable s) (path : String) :
    CheckPasses (checkStep none path (briefFields s.members s.extras)) := by
  have hmember {key : String} (hkey : key ∈ Step.fieldNames.filterMap List.head?) :=
    h.decent.memberOf_written hkey
  rw [checkPasses_checkStep_iff, hmember (by decide), hmember (by decide), hmember (by decide), hmember (by decide),
    hmember (by decide)]
  refine ⟨?_, rfl, checkPasses_checkKind h path, ?_, ?_, ?_, ?_⟩
  · show ErrorFree (checkStepId _ (.str s.id))
    rw [checkStepId, if_neg (by simpa using h.id)]
    exact errorFree_findIf_warning rfl
  · show ErrorFree (checkCondition _ (Json.ofText? s.condition))
    cases hcondition : s.condition with
    | none => exact errorFree_nil
    | some text => exact errorFree_malformedTokens.2 (h.condition text hcondition)
  · show isDelay (Json.ofOption .float s.delay) = true
    cases hdelay : s.delay with
    | none => rfl
    | some delay =>
      show (!decide (delay < 0.0)) = true
      rw [decide_eq_false (not_lt_zero_of_zero_le (h.decent.delay delay hdelay))]
      rfl
  · show ErrorFree (checkRetry _ (Json.ofOption Retry.toJson s.retry))
    cases hretry : s.retry with
    | none => exact errorFree_nil
    | some retry => exact errorFree_checkRetry _ (Retry.decode_toJson (h.decent.retry retry hretry))
  · show ErrorFree ((((Json.record s.input).exchanged).texts _).flatMap _)
    obtain ⟨other, hwellFormed⟩ := h.sound.input
    rw [Json.texts_exchanged, errorFree_flatMap]
    intro leaf hleaf
    have hmem := List.mem_map_of_mem (f := Prod.snd) hleaf
    rw [Json.map_snd_texts _ other] at hmem
    obtain ⟨leaf', hleaf', htext⟩ := List.mem_map.1 hmem
    exact errorFree_malformedTokens.2 (htext ▸ hwellFormed leaf' hleaf')

/-- There is no error in steps with ids of their own as they are written. -/
theorem checkEachStep_written {ss : List Step} (writable : ∀ s ∈ ss, StepWritable s)
    (distinct : (ss.map Step.id).Nodup) {seen : SeenIds} (fresh : ∀ s ∈ ss, seen.lookup s.id = none) (position : Nat) :
    ∃ found, (checkEachStep none seen position (ss.map (Step.toJson .brief))).outcome.value = .ok found ∧
      ErrorFree found.1 := by
  induction ss generalizing seen position with
  | nil => exact ⟨_, rfl, errorFree_nil⟩
  | cons s rest ih =>
    rw [List.forall_mem_cons] at writable fresh
    rw [List.map_cons, List.nodup_cons] at distinct
    have hid : stepId? (briefFields s.members s.extras) = some s.id := by
      have hget : Fields.get? "id" (briefFields s.members s.extras) = some (.str s.id) :=
        get?_of_memberOf (writable.1.decent.memberOf_written (by decide)) (by simp)
      simp [stepId?, hget, writable.1.id]
    have hnew : checkNew seen position (briefFields s.members s.extras) = ([], seen ++ [(s.id, position)]) := by
      simp [checkNew, hid, fresh.1]
    have hfresh : ∀ later ∈ rest, (seen ++ [(s.id, position)]).lookup later.id = none := by
      intro later hlater
      have hne : (later.id == s.id) = false :=
        beq_eq_false_iff_ne.2 fun heq => distinct.1 (heq ▸ List.mem_map_of_mem hlater)
      simp [List.lookup_append, fresh.2 later hlater, List.lookup_cons, hne]
    obtain ⟨found, hfound, free⟩ := checkPasses_checkStep writable.1 (Path.item "steps" position)
    obtain ⟨others, hothers, hfree⟩ := ih writable.2 distinct.2 hfresh (position + 1)
    rw [List.map_cons, Step.toJson_brief, checkEachStep_record, hnew]
    refine ⟨_, Attempt.value_bind_eq_ok.2 ⟨found, hfound, Attempt.value_bind_eq_ok.2 ⟨others, hothers, rfl⟩⟩, ?_⟩
    simpa using ⟨free, hfree⟩

/-! ## Workflows -/

/-- There is no error in triggers as they are written, if there is one. -/
theorem errorFree_checkTriggers {jsons : List Json} {ts : List Trigger}
    (decoded : List.Forall₂ (fun json t => Trigger.decode json = .accepted t) jsons ts) (hne : ts ≠ []) :
    ErrorFree (checkTriggers (.list (ts.map (Trigger.toJson .brief)))) := by
  have hparts : ∀ pair ∈ (ts.map (Trigger.toJson .brief)).zipIdx,
      ErrorFree (checkTrigger (Path.item "triggers" pair.2) pair.1) := by
    intro pair hpair
    obtain ⟨t, ht, htrigger⟩ := List.mem_map.1 (List.fst_mem_of_mem_zipIdx hpair)
    obtain ⟨json, -, hjson⟩ := exists_of_forall₂ decoded t ht
    exact htrigger ▸ errorFree_checkTrigger _ hjson
  cases ts with
  | nil => exact absurd rfl hne
  | cons t rest => exact errorFree_flatMap.2 hparts

/-- The steps of a workflow that passes can be written, and none refers to a step that does not exist. -/
theorem stepWritable_of_passes {now : Int} {json : Json} {w : Workflow} (passes : Passes json)
    (decoded : Workflow.decode now json = .accepted w) :
    (∀ s ∈ w.steps, StepWritable s) ∧ ∀ issue ∈ Dependency.analyze w.steps, issue.problem ≠ .unknownStep := by
  have hsound := (Workflow.sound_of_passes passes decoded).1
  obtain ⟨fields, steps, ids, rfl, hget, hpasses, -⟩ := steps_of_passes passes
  have hsteps : List.Forall₂ (fun json s => Step.decode json = .accepted s) steps w.steps :=
    Workflow.forall₂_steps decoded hget
  have hmember : memberOf "steps" fields = .list steps := by
    rw [memberOf, hget]
    rfl
  have hcheck := (passes_record_iff.1 passes).2.2.2
  rw [hmember, checkPasses_checkSteps_iff, Dependency.analyzeJson_of_decode hpasses hsteps] at hcheck
  obtain ⟨⟨found, hfound, free⟩, hknown⟩ := hcheck
  refine ⟨fun s hs => ?_, hknown⟩
  obtain ⟨json, hjson, hdecode⟩ := exists_of_forall₂ hsteps s hs
  obtain ⟨path, stepFields, rfl, hstep⟩ := checkPasses_of_checkEachStep hfound free json hjson
  obtain ⟨id, -, hid⟩ := exists_of_forall₂ hpasses.flip _ hjson
  obtain ⟨rfl, -⟩ := Step.sound_of_decode hid hdecode
  obtain ⟨_, hrecord, -, hstepId⟩ := hid
  obtain rfl := Json.record.inj hrecord
  refine ⟨hsound s hs, Step.decent_of_decode hdecode, ne_empty_of_stepId? hstepId, fun text htext => ?_⟩
  have hcondition := Dependency.text?_of_optional (Step.decodes_of_decodeFields hdecode).condition
  rw [htext] at hcondition
  exact wellFormed_of_checkPasses hstep (get?_of_memberOf (Json.text?_eq_some_iff.1 hcondition) (by simp))

/-- A name that is filled is decoded as it is. -/
theorem name_of_optional {fields : Fields} {name : String} (filled : isFilledText (memberOf "name" fields) = true)
    (decoded : optional ["name"] text "" fields = .accepted name) : memberOf "name" fields = .str name := by
  cases hname : memberOf "name" fields with
  | str s =>
    have htext : text (.str s) = .accepted name :=
      (optional_of_get? (get?_of_memberOf hname (by simp))).1 decoded
    rw [Decoded.accepted.inj htext]
  | _ => rw [hname] at filled; cases filled

/-- **A workflow that passes and is accepted passes as it is written.** -/
theorem passes_toJson {now : Int} {json : Json} {w : Workflow} (passes : Passes json)
    (decoded : Workflow.decode now json = .accepted w) : Passes (w.toJson .brief) := by
  obtain ⟨writable, hknown⟩ := stepWritable_of_passes passes decoded
  have hdistinct := (Workflow.sound_of_passes passes decoded).2
  cases json with
  | record fields =>
    obtain ⟨hname, htriggers, -, -⟩ := passes_record_iff.1 passes
    have decodes := Workflow.decodes_of_decodeFields decoded
    have hmember {key : String} (hkey : key ∈ Workflow.fieldNames.filterMap List.head?) :=
      decodes.memberOf_written hkey
    rw [Workflow.toJson_brief, passes_record_iff, hmember (by decide), hmember (by decide), hmember (by decide),
      hmember (by decide)]
    refine ⟨?_, ?_, ?_, ?_⟩
    · show isFilledText (.str w.name) = true
      rwa [name_of_optional hname decodes.name] at hname
    · obtain ⟨jsons, hget, hne⟩ := triggers_of_errorFree htriggers
      have htriggers : list Trigger.decode (.list jsons) = .accepted w.triggers :=
        (optional_of_get? hget).1 decodes.triggers
      have hdecoded := forall₂_of_items htriggers
      exact errorFree_checkTriggers hdecoded fun hnil => hne (by simpa [hnil] using hdecoded)
    · show (Json.ofOption Websites.toJson w.websites).isNull = false →
        ErrorFree (checkWebsites (Json.ofOption Websites.toJson w.websites))
      cases w.websites with
      | none => exact fun hnull => absurd hnull (by simp [Json.ofOption, Json.isNull])
      | some websites => exact fun _ => errorFree_checkWebsites websites
    · show CheckPasses (checkSteps none (.list (w.steps.map (Step.toJson .brief))))
      rw [checkPasses_checkSteps_iff, Dependency.analyzeJson_toJson fun s hs => (writable s hs).decent]
      exact ⟨checkEachStep_written writable hdistinct (by simp) 0, hknown⟩
  | _ => cases decoded

end Validation

end Runbook
