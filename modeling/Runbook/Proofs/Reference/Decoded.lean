import Mathlib.Control.Basic
import Runbook.Proofs.Reference.Review
import Runbook.Proofs.Reference.Views
import Runbook.Proofs.Workflow.Reread

/-!
# Repair and decoding

To repair the record of a workflow and to decode it is to decode it and to repair the workflow
(`decode_repairJson`): no field but the inputs and the conditions of steps is decoded from what a repair changes, and
of these the one is decoded text by text. What a repair finds in a record are the suggestions about the texts of the
workflow that it decodes to (`suggestions_repairJson`).
-/

namespace Runbook

open Decode Validation

/-! ## Texts that are corrected -/

namespace Repair

variable {ids : List String}

/-- A text with its tokens corrected, one after the other. -/
def corrected (ids : List String) (text : String) : String :=
  (repairText ids "" text).1

theorem suggest?_eq_map (ids : List String) (field : String) (t : Token) :
    suggest? ids field t = (suggest? ids "" t).map fun s => { s with field := field } := by
  unfold suggest?
  split
  · split <;> rfl
  · rfl

/-- What becomes of a text does not hang on the path to it. -/
theorem fst_repairText_eq (field text : String) : (repairText ids field text).1 = corrected ids text := by
  have hfound : suggestions ids field text =
      (suggestions ids "" text).map fun s => { s with field := field } := by
    rw [suggestions, suggestions, List.map_filterMap]
    exact List.filterMap_congr fun t _ => suggest?_eq_map ids field t
  show correct text (suggestions ids field text) = correct text (suggestions ids "" text)
  rw [hfound, correct, correct, List.filter_map, List.foldl_map]
  rfl

end Repair

/-! ## Steps -/

/-- A step with other texts in its input and as its condition. -/
def Step.rewritten (f : String → String) (s : Step) : Step :=
  { s with input := Json.mapFieldTexts f s.input, condition := s.condition.map f }

namespace Step

variable {f : String → String} {fields fields' : Fields}

/-- A step is decoded with other texts where other texts stand in its record. -/
theorem decodeFields_rewritten (same : Fields.AgreeOutside ["input", "condition"] fields fields')
    (input : fields'.get? "input" = (Fields.get? "input" fields).map (Json.mapTexts f))
    (condition : fields'.get? "condition" = (Fields.get? "condition" fields).map (Json.mapText f))
    (hextras : Decode.extras fieldNames fields' = Decode.extras fieldNames fields) :
    decodeFields fields' = rewritten f <$> decodeFields fields := by
  have hsame : ∀ names : Names, (∀ name ∈ names, name ∉ ["input", "condition"]) →
      ∀ name ∈ names, fields'.get? name = fields.get? name :=
    fun names hnames name hname => same.get? name (hnames name hname)
  have hinput : Decode.optional ["input"] map [] fields' =
      Json.mapFieldTexts f <$> Decode.optional ["input"] map [] fields :=
    optional_map (Json.mapTexts f) input rfl fun value _ => by cases value <;> rfl
  have hcondition : Decode.optional ["condition"] (nullable text) none fields' =
      Option.map f <$> Decode.optional ["condition"] (nullable text) none fields :=
    optional_map (Json.mapText f) condition rfl fun value _ => by cases value <;> rfl
  rw [decodeFields, hinput, hcondition, hextras, required_congr (hsame _ (by decide)),
    required_congr (hsame _ (by decide)), optional_congr (hsame ["taskId", "task_id"] (by decide)),
    optional_congr (hsame ["handlerId", "handler_id"] (by decide)), optional_congr (hsame ["delay"] (by decide)),
    optional_congr (hsame ["retry"] (by decide)), decodeFields]
  simp only [map_seq, seq_map_assoc, Functor.map_map, Function.comp_def]
  rfl

end Step

namespace Repair

variable {ids : List String}

theorem extras_repairMember (key : String) {allNames : List Names} (hkey : [key] ∈ allNames)
    (repair : Json → Json × List Suggestion) (fields : Fields) :
    Decode.extras allNames (repairMember key repair fields).1 = Decode.extras allNames fields := by
  cases h : fields.get? key with
  | none => rw [repairMember_of_none h]
  | some value =>
    rw [repairMember_of_get? h]
    exact extras_set (Fields.has_of_get? h) hkey _

/-- A repaired step is decoded to the step with corrected texts. -/
theorem decode_repairStep (position : Nat) (json : Json) :
    Step.decode (repairStep ids position json).1 = Step.rewritten (corrected ids) <$> Step.decode json := by
  cases json with
  | record fields =>
    obtain ⟨fields', hfields, hextras⟩ : ∃ fields', (repairStep ids position (.record fields)).1 = .record fields' ∧
        Decode.extras Step.fieldNames fields' = Decode.extras Step.fieldNames fields :=
      ⟨_, rfl, (extras_repairMember "condition" (by decide) _ _).trans (extras_repairMember "input" (by decide) _ _)⟩
    have hrewritten : StepRewritten (corrected ids) (.record fields) (repairStep ids position (.record fields)).1 :=
      repairStep_rewritten fst_repairText_eq position _
    rw [hfields] at hrewritten ⊢
    cases hrewritten with
    | record same input condition => exact Step.decodeFields_rewritten same input condition hextras
    | other noRecord => cases noRecord
  | _ => rfl

theorem items_repairSteps (position : Nat) (steps : List Json) :
    items Step.decode position (repairSteps ids position steps).1 =
      List.map (Step.rewritten (corrected ids)) <$> items Step.decode position steps := by
  induction steps generalizing position with
  | nil => rfl
  | cons step rest ih =>
    show List.cons <$> (Step.decode (repairStep ids position step).1).within (.index position) <*>
      items Step.decode (position + 1) (repairSteps ids (position + 1) rest).1 = _
    rw [decode_repairStep, ih, items, Decoded.within_map]
    simp only [map_seq, seq_map_assoc, Functor.map_map, Function.comp_def]
    rfl

end Repair

/-! ## Workflows -/

/-- A workflow with other texts in the inputs and as the conditions of its steps. -/
def Workflow.rewritten (f : String → String) (w : Workflow) : Workflow :=
  { w with steps := w.steps.map (Step.rewritten f) }

/-- A workflow in which the references to outputs are repaired. -/
def Workflow.repaired (w : Workflow) : Workflow :=
  w.rewritten (Repair.corrected (w.steps.map Step.id))

theorem Workflow.decodeFields_set_steps {f : String → String} {now : Int} {fields : Fields} {steps steps' : List Json}
    (listed : fields.get? "steps" = some (.list steps))
    (hsteps : list Step.decode (.list steps') = List.map (Step.rewritten f) <$> list Step.decode (.list steps)) :
    decodeFields now (fields.set "steps" (.list steps')) = rewritten f <$> decodeFields now fields := by
  have hhas := Fields.has_of_get? listed
  have hsame : ∀ names : Names, (∀ name ∈ names, name ∉ ["steps"]) →
      ∀ name ∈ names, Fields.get? name (fields.set "steps" (.list steps')) = fields.get? name :=
    fun names hnames name hname => (Fields.agreeOutside_set hhas _).get? name (hnames name hname)
  have hlist : Decode.optional ["steps"] (list Step.decode) [] (fields.set "steps" (.list steps')) =
      List.map (Step.rewritten f) <$> Decode.optional ["steps"] (list Step.decode) [] fields := by
    refine optional_map (fun _ => .list steps') ?_ rfl fun value hvalue => ?_
    · rw [Fields.get?_set hhas, listed]
      rfl
    · obtain rfl := Option.some.inj (listed.symm.trans hvalue)
      exact hsteps
  rw [decodeFields, hlist, extras_set hhas (by decide), optional_congr (hsame ["id"] (by decide)),
    optional_congr (hsame ["name"] (by decide)), optional_congr (hsame ["description"] (by decide)),
    optional_congr (hsame ["triggers"] (by decide)), optional_congr (hsame ["dataPoints", "data_points"] (by decide)),
    optional_congr (hsame ["enabled"] (by decide)), optional_congr (hsame ["createdAt", "created_at"] (by decide)),
    optional_congr (hsame ["updatedAt", "updated_at"] (by decide)), optional_congr (hsame ["version"] (by decide)),
    optional_congr (hsame ["websiteConfig", "website_config"] (by decide)), decodeFields]
  simp only [map_seq, seq_map_assoc, Functor.map_map, Function.comp_def]
  rfl

/-! ## What is found -/

/-- The texts of a step at a position in which tokens are corrected, and the paths to them. -/
def Step.leaves (position : Nat) (s : Step) : List (String × String) :=
  let path := Path.item "steps" position
  Json.fieldTexts (Path.member path "input") s.input ++
    (s.condition.map fun text => (Path.member path "condition", text)).toList

/-- The suggestions about the texts of a workflow. -/
def Workflow.suggestions (w : Workflow) : List Repair.Suggestion :=
  (w.steps.zipIdx.flatMap fun step => step.1.leaves step.2).flatMap fun leaf =>
    Repair.suggestions (w.steps.map Step.id) leaf.1 leaf.2

namespace Repair

/-- Does a record show the id of a step and the texts in which tokens are corrected? -/
structure Shows (json : Json) (s : Step) : Prop where
  id : (json.get? "id").bind Json.text? = some s.id
  leaves : ∀ position, leaves position json = s.leaves position

theorem shows_of_members {fields : Fields} {s : Step} (id : (memberOf "id" fields).text? = some s.id)
    (input : ∀ path, (memberOf "input" fields).texts path = Json.fieldTexts path s.input)
    (condition : (memberOf "condition" fields).text? = s.condition) : Shows (.record fields) s := by
  refine ⟨(Dependency.bind_text?_get? "id" fields).trans id, fun position => ?_⟩
  rw [Repair.leaves, Dependency.bind_text?_get?, condition, Step.leaves, ← input, memberOf]
  cases fields.get? "input" <;> rfl

theorem shows_of_decode {json : Json} {s : Step} (decoded : Step.decode json = .accepted s) : Shows json s := by
  cases json with
  | record fields =>
    have decodes : s.Decodes fields := Step.decodes_of_decodeFields decoded
    refine shows_of_members ?_ ?_ (Dependency.text?_of_optional decodes.condition)
    · obtain ⟨value, hget, hid⟩ := exists_of_required decodes.id
      rw [memberOf, hget]
      cases value with
      | str id => exact congrArg some (Decoded.accepted.inj hid)
      | _ => cases hid
    · intro path
      rw [memberOf]
      rcases exists_of_optional decodes.input with ⟨value, hget, hinput⟩ | ⟨hget, hinput⟩
      · rw [hget]
        cases value with
        | record input => exact congrArg (Json.fieldTexts path) (Decoded.accepted.inj hinput)
        | _ => cases hinput
      · rw [hget, hinput]
        rfl
  | _ => cases decoded

/-- A step that is written in brief shows what it showed. -/
theorem shows_toJson {s : Step} (h : s.Coherent) : Shows (s.toJson .brief) s := by
  have hmember {key : String} (hkey : key ∈ Step.fieldNames.filterMap List.head?) :
      memberOf key (briefFields s.members s.extras) = memberOf key s.members :=
    memberOf_briefFields s.distinct_members (h.spare.free key hkey)
  rw [Step.toJson_brief]
  refine shows_of_members ?_ ?_ ?_
  · rw [hmember (by decide)]
    rfl
  · intro path
    rw [hmember (by decide)]
    exact Json.texts_exchanged path (.record s.input)
  · rw [hmember (by decide)]
    exact Json.text?_ofText? s.condition

theorem stepIds_of_shows {steps : List Json} {ss : List Step} (h : List.Forall₂ Shows steps ss) :
    stepIds steps = ss.map Step.id := by
  induction h with
  | nil => rfl
  | cons hstep _ ih =>
    rw [stepIds, List.filterMap_cons, hstep.id, ← stepIds, ih]
    rfl

theorem allLeaves_of_shows {steps : List Json} {ss : List Step} (h : List.Forall₂ Shows steps ss) (position : Nat) :
    allLeaves position steps = (ss.zipIdx position).flatMap fun step => step.1.leaves step.2 := by
  induction h generalizing position with
  | nil => rfl
  | cons hstep _ ih =>
    rw [allLeaves, List.zipIdx_cons, List.flatMap_cons, List.zipIdx_cons, List.flatMap_cons, ← ih, hstep.leaves]
    rfl

theorem found_of_shows {steps : List Json} {w : Workflow} (h : List.Forall₂ Shows steps w.steps) :
    (repairSteps (stepIds steps) 0 steps).2 = w.suggestions := by
  rw [found_repairSteps, stepIds_of_shows h, allLeaves_of_shows h, Workflow.suggestions]

variable {now : Int} {json : Json} {w : Workflow}

/-- What a repair finds in a record are the suggestions about the workflow that it decodes to. -/
theorem suggestions_repairJson (decoded : Workflow.decode now json = .accepted w) :
    (repairJson json).suggestions = w.suggestions := by
  cases json with
  | record fields =>
    rcases Workflow.steps_cases decoded with ⟨steps, listed⟩ | ⟨hnone, hsteps⟩
    · rw [repairJson_of_listed listed]
      exact found_of_shows ((Workflow.forall₂_steps decoded listed).imp fun _ _ => shows_of_decode)
    · simp only [repairJson, hnone, Workflow.suggestions, hsteps]
      rfl
  | _ => cases decoded

/-- What a repair finds in the record that is written for a workflow are the same suggestions. -/
theorem suggestions_repairJson_toJson (h : w.Coherent) :
    (repairJson (w.toJson .brief)).suggestions = w.suggestions := by
  have listed : (briefFields w.members w.extras).get? "steps" = some (.list (w.steps.map (Step.toJson .brief))) :=
    Workflow.get?_written h.spare (by decide) rfl rfl
  rw [Workflow.toJson_brief, repairJson_of_listed listed]
  exact found_of_shows (List.forall₂_map_left_iff.2 (List.forall₂_same.2 fun s hs => shows_toJson (h.steps s hs)))

/-- To decode a repaired record is to repair what is decoded. -/
theorem decode_repairJson (now : Int) (json : Json) :
    Workflow.decode now (repairJson json).workflow = Workflow.repaired <$> Workflow.decode now json := by
  cases json with
  | record fields =>
    show Workflow.decode now (repairJson (.record fields)).workflow =
      Workflow.repaired <$> Workflow.decodeFields now fields
    by_cases hlisted : ∃ steps, Fields.get? "steps" fields = some (.list steps)
    · obtain ⟨steps, listed⟩ := hlisted
      rw [repairJson_of_listed listed]
      refine (Workflow.decodeFields_set_steps listed (items_repairSteps 0 steps)).trans ?_
      refine Decoded.map_congr fun w hdecode => ?_
      have hids : stepIds steps = w.steps.map Step.id :=
        stepIds_of_shows ((Workflow.forall₂_steps hdecode listed).imp fun _ _ => shows_of_decode)
      rw [hids, Workflow.repaired]
    · have hkept : (repairJson (.record fields)).workflow = .record fields := by
        simp only [repairJson]
        split
        · rename_i steps listed
          exact absurd ⟨steps, listed⟩ hlisted
        · rfl
      rw [hkept]
      refine (LawfulFunctor.id_map (Workflow.decodeFields now fields)).symm.trans ?_
      refine Decoded.map_congr fun w hdecode => ?_
      obtain ⟨-, hsteps⟩ := (Workflow.steps_cases hdecode).resolve_left hlisted
      rw [Workflow.repaired, Workflow.rewritten, hsteps, List.map_nil, ← hsteps]
      rfl
  | _ => rfl

end Repair

end Runbook
