import Runbook.Proofs.Reference.Review

/-!
# Repairing a second time

* `suggestions_rewrite` — in a corrected text there is nothing to find but what was not corrected, in the order in
  which it was found before.
* `rewrite_rewrite`, `repairStep_repairStep`, `repairSteps_repairSteps` — so a second repair changes no text, no
  step and no list of steps.
* `repairJson_repairJson` — a repaired workflow is repaired to itself, and what is reported once more is what was
  left for review.
-/

namespace Runbook.Repair

variable {ids : List String} {t : Token}

/-! ## One text -/

/-- A token that stands in a corrected text has no correction. -/
theorem correction?_getD (ids : List String) (t : Token) :
    correction? ids ((correction? ids t).getD t) = none := by
  cases h : correction? ids t with
  | none => exact h
  | some new => exact correction?_eq_none h

/-- A correction names the output of a step that there is, or of none at all. -/
theorem suggest?_correction {new : Token} (h : correction? ids t = some new) (field : String) :
    suggest? ids field new = none := by
  rw [Option.eq_none_iff_forall_not_mem]
  intro s hs
  obtain ⟨step, hstep, hmissing, -⟩ := suggest?_eq_some_iff.1 hs
  exact hmissing (mem_of_stepOfOutput?_correction h hstep)

/-- To correct a corrected text changes nothing. -/
theorem rewrite_rewrite (identifiers : Identifiers ids) (text : String) :
    rewrite ids (rewrite ids text) = rewrite ids text := by
  have hsame : ∀ u ∈ Template.tokens (rewrite ids text),
      ((correction? ids u).getD u).write = u.write := by
    intro u hu
    rw [tokens_rewrite identifiers] at hu
    obtain ⟨t, -, rfl⟩ := List.mem_map.1 hu
    rw [correction?_getD]
    rfl
  calc rewrite ids (rewrite ids text)
      = Template.fill Token.write (rewrite ids text) := Template.fill_congr hsame
    _ = rewrite ids text := Template.fill_write _

/-- Is there a suggestion about the token, but no correction? -/
def isLeft (ids : List String) (field : String) (t : Token) : Bool :=
  (suggest? ids field t).isSome && (correction? ids t).isNone

theorem isSome_suggest?_getD (field : String) (t : Token) :
    (suggest? ids field ((correction? ids t).getD t)).isSome = isLeft ids field t := by
  cases h : correction? ids t with
  | none => simp [isLeft, h]
  | some new => simp [isLeft, h, suggest?_correction h]

/-- Of the corrected tokens, those with a suggestion are the tokens that were left. -/
theorem filter_map_correction (field : String) (tokens : List Token) :
    (tokens.map fun t => (correction? ids t).getD t).filter (fun t => (suggest? ids field t).isSome) =
      tokens.filter (isLeft ids field) := by
  have hsame : ∀ t ∈ tokens.filter (isLeft ids field), (correction? ids t).getD t = t := by
    intro t ht
    have hleft := List.of_mem_filter ht
    rw [isLeft, Bool.and_eq_true, Option.isNone_iff_eq_none] at hleft
    rw [hleft.2]
    rfl
  rw [List.filter_map]
  simp only [Function.comp_def, isSome_suggest?_getD]
  rw [List.map_congr_left hsame, List.map_id']

theorem filterMap_filter_isSome {α β : Type} (f : α → Option β) (as : List α) :
    (as.filter fun a => (f a).isSome).filterMap f = as.filterMap f := by
  rw [List.filterMap_filter]
  refine List.filterMap_congr fun a _ => ?_
  cases h : f a <;> simp

/-- **What is found in a corrected text is what was found before and not corrected**, in the same order. -/
theorem suggestions_rewrite (identifiers : Identifiers ids) (field text : String) :
    suggestions ids field (rewrite ids text) =
      (suggestions ids field text).filter fun s => !s.applied := by
  have hleft : ∀ t ∈ (Template.tokens text).eraseDups,
      (if isLeft ids field t then suggest? ids field t else none) =
        (suggest? ids field t).filter fun s => !s.applied := by
    intro t ht
    cases hs : suggest? ids field t with
    | none => simp
    | some s =>
      have hfound : s ∈ suggestions ids field text := List.mem_filterMap.2 ⟨t, ht, hs⟩
      have happlied : s.applied = (correction? ids t).isSome :=
        (applied_eq_isCorrected hfound).trans (of_suggest? hs).2.2
      rw [Option.filter_some, happlied]
      cases hc : correction? ids t <;> simp [isLeft, hs, hc]
  calc suggestions ids field (rewrite ids text)
      = (((Template.tokens text).map fun t => (correction? ids t).getD t).eraseDups.filter
          fun t => (suggest? ids field t).isSome).filterMap (suggest? ids field) := by
        rw [filterMap_filter_isSome, suggestions, tokens_rewrite identifiers]
    _ = ((Template.tokens text).eraseDups.filter (isLeft ids field)).filterMap (suggest? ids field) := by
        rw [← eraseDups_filter, filter_map_correction, eraseDups_filter]
    _ = (suggestions ids field text).filter fun s => !s.applied := by
        rw [List.filterMap_filter, suggestions, List.filter_filterMap]
        exact List.filterMap_congr hleft

/-! ## Members of a step -/

section

variable {repair repair' : Json → Json × List Suggestion} {key key' : String}

/-- To repair a member twice is to repair it once, if that is so of its value. -/
theorem repairMember_repairMember (h : ∀ value, (repair (repair value).1).1 = (repair value).1)
    (fields : Fields) :
    (repairMember key repair (repairMember key repair fields).1).1 = (repairMember key repair fields).1 := by
  cases hget : fields.get? key with
  | none => rw [repairMember_of_none hget, repairMember_of_none hget]
  | some value =>
    have hhas := Fields.has_of_get? hget
    rw [repairMember_of_get? hget, repairMember_of_get? (Fields.get?_set hhas), Fields.set_set hhas, h]

/-- It does not matter which of two members is repaired first. -/
theorem repairMember_comm (hne : key ≠ key') (fields : Fields) :
    (repairMember key' repair' (repairMember key repair fields).1).1 =
      (repairMember key repair (repairMember key' repair' fields).1).1 := by
  have hkey' := (agreeOutside_repairMember key repair fields).get? key' (by simp [hne.symm])
  have hkey := (agreeOutside_repairMember key' repair' fields).get? key (by simp [hne])
  cases hget : fields.get? key with
  | none =>
    rw [hget] at hkey
    rw [repairMember_of_none hget, repairMember_of_none hkey]
  | some value =>
    rw [hget] at hkey
    rw [repairMember_of_get? hkey]
    cases hget' : fields.get? key' with
    | none =>
      rw [hget'] at hkey'
      rw [repairMember_of_none hkey', repairMember_of_none hget', repairMember_of_get? hget]
    | some value' =>
      rw [hget'] at hkey'
      rw [repairMember_of_get? hkey', repairMember_of_get? hget, repairMember_of_get? hget']
      exact Fields.set_comm hne (Fields.has_of_get? hget) (Fields.has_of_get? hget') _ _

end

/-! ## Steps -/

/-- To repair a repaired step changes nothing. -/
theorem repairStep_repairStep (identifiers : Identifiers ids) (position : Nat) (step : Json) :
    (repairStep ids position (repairStep ids position step).1).1 = (repairStep ids position step).1 := by
  cases step with
  | record fields =>
    have hinput : ∀ value, (repairInputAt ids position (repairInputAt ids position value).1).1 =
        (repairInputAt ids position value).1 := by
      intro value
      simp only [repairInputAt, Json.fst_walk (fst_repairText identifiers)]
      exact Json.mapTexts_mapTexts (rewrite_rewrite identifiers) value
    have hcondition : ∀ value, (repairConditionAt ids position (repairConditionAt ids position value).1).1 =
        (repairConditionAt ids position value).1 := by
      intro value
      simp only [repairConditionAt, fst_repairCondition (fst_repairText identifiers)]
      cases value <;> simp [Json.mapText, rewrite_rewrite identifiers]
    let input := fun fields => (repairMember "input" (repairInputAt ids position) fields).1
    let condition := fun fields => (repairMember "condition" (repairConditionAt ids position) fields).1
    rw [fst_repairStep_record, fst_repairStep_record]
    show Json.record (condition (input (condition (input fields)))) =
      Json.record (condition (input fields))
    refine congrArg Json.record ?_
    calc condition (input (condition (input fields)))
        = condition (condition (input (input fields))) :=
          congrArg condition (repairMember_comm (by decide) (input fields)).symm
      _ = condition (input (input fields)) := repairMember_repairMember hcondition _
      _ = condition (input fields) := congrArg condition (repairMember_repairMember hinput fields)
  | _ => rfl

theorem repairSteps_repairSteps (identifiers : Identifiers ids) (position : Nat) (steps : List Json) :
    (repairSteps ids position (repairSteps ids position steps).1).1 =
      (repairSteps ids position steps).1 := by
  induction steps generalizing position with
  | nil => rfl
  | cons step rest ih =>
    exact congrArg₂ List.cons (repairStep_repairStep identifiers position step) (ih (position + 1))

/-- What is found in repaired steps is what was found before and not corrected. -/
theorem found_repairSteps_repairSteps (identifiers : Identifiers ids) (position : Nat)
    (steps : List Json) :
    (repairSteps ids position (repairSteps ids position steps).1).2 =
      (repairSteps ids position steps).2.filter fun s => !s.applied := by
  have hleaves := allLeaves_of_rewritten (repairSteps_rewritten identifiers position steps) position
  rw [found_repairSteps, found_repairSteps, hleaves, List.flatMap_map, List.filter_flatMap]
  exact List.flatMap_congr fun leaf _ => suggestions_rewrite identifiers leaf.1 leaf.2

/-! ## Workflows -/

/-- **Repair is idempotent.** If the ids of the steps are made of the characters of identifiers, then a repaired
workflow is repaired to itself, without a correction, and what is reported about it is what was not corrected, in
the order in which it was reported before. -/
theorem repairJson_repairJson {fields : Fields} {steps : List Json}
    (listed : fields.get? "steps" = some (.list steps)) (identifiers : Identifiers (stepIds steps)) :
    let first := repairJson (.record fields)
    let second := repairJson first.workflow
    second.workflow = first.workflow ∧ second.fixedCount = 0 ∧ second.repaired = false ∧
      second.suggestions = first.suggestions.filter fun s => !s.applied := by
  intro first second
  have hhas := Fields.has_of_get? listed
  have hids := stepIds_of_rewritten (repairSteps_rewritten identifiers 0 steps)
  have hfirst : first = _ := repairJson_of_listed listed
  have hsecond : second = ⟨first.workflow, first.suggestions.filter fun s => !s.applied⟩ := by
    show repairJson first.workflow = _
    rw [hfirst, repairJson_of_listed (Fields.get?_set hhas), hids, Fields.set_set hhas,
      repairSteps_repairSteps identifiers, found_repairSteps_repairSteps identifiers]
  have hcount : second.fixedCount = 0 := by
    rw [hsecond, Result.fixedCount, List.length_eq_zero_iff, List.filter_eq_nil_iff]
    intro s hs hcorrected
    obtain ⟨hs, hunapplied⟩ := List.mem_filter.1 hs
    rw [hfirst, found_repairSteps, List.mem_flatMap] at hs
    obtain ⟨leaf, -, hs⟩ := hs
    rw [applied_eq_isCorrected hs, hcorrected] at hunapplied
    cases hunapplied
  refine ⟨by rw [hsecond], hcount, ?_, by rw [hsecond]⟩
  rw [Result.repaired, hcount]
  rfl

/-- A stale id is corrected to that of a step that ends like an output itself. The tokens of a step that no step
is like, one of them twice in one text, are reported once more. -/
theorem repairJson_repairJson_drifted :
    let steps : List Json :=
      [.record [("id", .str "a_output_5"), ("condition", .str "${a_output} > ${gone_output_17}"),
        ("input", .record [("q", .str "${gone_output.x}${a_output.x}$${gone_output.x}")])]]
    let fields : Fields := [("name", .str "w"), ("steps", .list steps)]
    Fields.get? "steps" fields = some (.list steps) ∧ Identifiers (stepIds steps) ∧
      (repairJson (.record fields)).fixedCount = 2 ∧
      (repairJson (repairJson (.record fields)).workflow).workflow =
        (repairJson (.record fields)).workflow ∧
      (repairJson (repairJson (.record fields)).workflow).repaired = false ∧
      (repairJson (repairJson (.record fields)).workflow).suggestions.map Suggestion.oldValue =
        ["${gone_output.x}", "${gone_output_17}"] := by
  intro steps fields
  have listed : Fields.get? "steps" fields = some (.list steps) := rfl
  have identifiers : Identifiers (stepIds steps) := by
    have hids : stepIds steps = ["a_output_5"] := rfl
    rw [hids]
    intro id hid
    obtain rfl := List.mem_singleton.1 hid
    exact List.all_eq_true.1 (by decide)
  obtain ⟨hworkflow, -, hrepaired, hsuggestions⟩ := repairJson_repairJson listed identifiers
  refine ⟨listed, identifiers, by decide +kernel, hworkflow, hrepaired, ?_⟩
  rw [hsuggestions]
  decide +kernel

end Runbook.Repair
