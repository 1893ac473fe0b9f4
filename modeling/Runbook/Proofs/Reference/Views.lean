import Runbook.Proofs.Workflow.Written

/-!
# Steps as the analysis sees them

The analysis of references looks at a few members of a step, and these are the same whether the step stands in
JSON before it is decoded (`analyzeJson_of_decode`), is decoded, or is written again (`analyzeJson_toJson`).
-/

namespace Runbook.Dependency

open Validation

/-- What the analysis looks at when an input is exchanged. -/
def StepView.exchanged (v : StepView) : StepView :=
  { v with input := v.input.exchanged }

theorem references_exchanged (position : Nat) (v : StepView) :
    references position v.exchanged = references position v := by
  simp only [references, templates, StepView.exchanged, Json.templates_exchanged]

theorem locate_exchanged (id : String) (views : List (Option StepView)) :
    locate id (views.map (Option.map StepView.exchanged)) =
      (locate id views).map fun found => (found.1, found.2.exchanged) := by
  rw [locate, List.zipIdx_map, List.findSome?_map, locate, List.map_findSome?]
  congr 1
  funext ⟨view, position⟩
  cases view with
  | none => rfl
  | some v =>
    by_cases hid : v.id = some id <;> simp [Option.filter_some, StepView.exchanged, hid]

theorem problem?_exchanged (views : List (Option StepView)) (r : Reference) :
    problem? (views.map (Option.map StepView.exchanged)) r = problem? views r := by
  rw [problem?, locate_exchanged, problem?]
  cases locate r.target views <;> rfl

theorem allReferences_exchanged (views : List (Option StepView)) :
    allReferences (views.map (Option.map StepView.exchanged)) = allReferences views := by
  rw [allReferences, List.zipIdx_map, List.flatMap_map, allReferences]
  congr 1
  funext ⟨view, position⟩
  cases view with
  | none => rfl
  | some v => exact references_exchanged position v

/-- The same references come to nothing when inputs are exchanged. -/
theorem analyzeViews_exchanged (views : List (Option StepView)) :
    analyzeViews (views.map (Option.map StepView.exchanged)) = analyzeViews views := by
  simp only [analyzeViews, allReferences_exchanged, problem?_exchanged]

/-- Whether a member is absent or null, it is no text. -/
theorem bind_text?_get? (key : String) (fields : Fields) :
    (fields.get? key).bind Json.text? = (memberOf key fields).text? := by
  rw [memberOf]
  cases fields.get? key <;> rfl

theorem ofJson?_record (fields : Fields) : StepView.ofJson? (.record fields) =
    some
      { id := (memberOf "id" fields).text?
        kind := (memberOf "type" fields).text?
        input := memberOf "input" fields
        condition := (memberOf "condition" fields).text? } := by
  simp only [StepView.ofJson?, bind_text?_get?, memberOf]

/-- The analysis of steps as they are written is that of the steps. -/
theorem analyzeJson_toJson {ss : List Step} (decent : ∀ s ∈ ss, s.Decent) :
    analyzeJson (ss.map (Step.toJson .brief)) = analyze ss := by
  have hview : ∀ s ∈ ss, StepView.ofJson? (s.toJson .brief) = some (StepView.ofStep s).exchanged := by
    intro s hs
    have hmember {key : String} (hkey : key ∈ Step.fieldNames.filterMap List.head?) :=
      (decent s hs).memberOf_written hkey
    rw [Step.toJson_brief, ofJson?_record, hmember (by decide), hmember (by decide), hmember (by decide),
      hmember (by decide)]
    show some (StepView.mk _ _ _ (Json.ofText? s.condition).text?) = _
    rw [Json.text?_ofText?]
    rfl
  calc analyzeJson (ss.map (Step.toJson .brief))
      = analyzeViews ((ss.map fun s => some (StepView.ofStep s)).map (Option.map StepView.exchanged)) := by
        rw [analyzeJson, List.map_map, List.map_map]
        exact congrArg analyzeViews (List.map_congr_left hview)
    _ = analyze ss := analyzeViews_exchanged _

theorem name_of_lookup_kinds {name : String} {kind : Step.Kind} (h : Step.kinds.lookup name = some kind) :
    name = kind.name := by
  obtain ⟨before, after, hkinds, -⟩ := List.lookup_eq_some_iff.1 h
  have hmem : (name, kind) ∈ Step.kinds := hkinds ▸ List.mem_append_right before List.mem_cons_self
  simp only [Step.kinds, List.mem_cons, List.not_mem_nil, or_false, Prod.mk.injEq] at hmem
  rcases hmem with ⟨rfl, rfl⟩ | ⟨rfl, rfl⟩ <;> rfl

/-- A text that may be absent or null is decoded to what is there. -/
theorem text?_of_optional {key : String} {fields : Fields} {found : Option String}
    (h : Decode.optional [key] (Decode.nullable Decode.text) none fields = .accepted found) :
    (memberOf key fields).text? = found := by
  cases hget : fields.get? key with
  | none =>
    rw [Decode.optional, Decode.find, List.findSome?_cons, hget] at h
    rw [memberOf, hget, ← Decode.Decoded.accepted.inj h]
    rfl
  | some json =>
    rw [memberOf, hget]
    have hjson := (Decode.optional_of_get? hget).1 h
    cases json with
    | null | str text => exact Decode.Decoded.accepted.inj hjson
    | _ => cases hjson

/-- What the analysis looks at in a step that passes is what it looks at in the step that is decoded. -/
theorem ofJson?_of_decode {json : Json} {id : String} {s : Step} (passes : PassesAs json id)
    (decoded : Step.decode json = .accepted s) : StepView.ofJson? json = some (StepView.ofStep s) := by
  obtain ⟨rfl, -⟩ := Step.sound_of_decode passes decoded
  obtain ⟨fields, rfl, passes, hstepId⟩ := passes
  have decodes := Step.decodes_of_decodeFields decoded
  obtain ⟨kind, -, hkind, -⟩ := passes.target
  obtain ⟨name, hname, hlookup⟩ := name_of_kind? hkind
  obtain ⟨input, hinput, -⟩ := passes.input
  have hskind := Decode.oneOf_eq_accepted.1 ((Decode.required_of_get? hname).1 decodes.kind)
  have hkindName : name = s.kind.name := name_of_lookup_kinds hskind
  have hsinput : input = s.input :=
    Decode.Decoded.accepted.inj ((Decode.optional_of_get? hinput).1 decodes.input)
  rw [ofJson?_record, text?_of_optional decodes.condition, memberOf, get?_of_stepId? hstepId, memberOf, hname,
    memberOf, hinput, hkindName, hsinput]
  rfl

theorem analyzeJson_of_decode {steps : List Json} {ids : List String} {ss : List Step}
    (passes : List.Forall₂ PassesAs steps ids)
    (decoded : List.Forall₂ (fun json s => Step.decode json = .accepted s) steps ss) :
    analyzeJson steps = analyze ss := by
  have hviews : steps.map StepView.ofJson? = ss.map fun s => some (StepView.ofStep s) := by
    induction passes generalizing ss with
    | nil =>
      cases decoded
      rfl
    | cons hpasses _ ih =>
      cases decoded with
      | cons hdecoded hrest => rw [List.map_cons, List.map_cons, ofJson?_of_decode hpasses hdecoded, ih hrest]
  rw [analyzeJson, hviews, analyze]

end Runbook.Dependency

