import Runbook.Proofs.Json.Walk
import Runbook.Reference.Legacy

/-!
# Values without references of the older kind

* `templates_of_not_contains` — in such a value the texts with tokens are those among its texts that have one.
* `contains_mapTexts` — other texts make no reference of the older kind, if none of them is the name by which
  such a reference is told.
-/

namespace Runbook

/-- A reference of the older kind is told by the texts of two of its members. -/
theorem Fields.isSome_legacyToken? {fields : Fields} :
    (legacyToken? fields).isSome = true ↔
      fields.get? "type" = some (.str "data_point") ∧
        ∃ id, fields.get? "dataPointId" = some (.str id) := by
  unfold legacyToken?
  constructor
  · intro h
    split at h
    · rename_i id htype hid
      exact ⟨htype, id, hid⟩
    · cases h
  · rintro ⟨htype, id, hid⟩
    rw [htype, hid]
    rfl

namespace Legacy

open Input (classify classifyItems classifyFields templates itemTemplates fieldTemplates)
open Json (texts itemTexts fieldTexts mapTexts mapItemTexts mapFieldTexts)

mutual

theorem templates_of_not_contains (path : String) : ∀ value : Json, contains value = false →
    (classify value).templates path = (value.texts path).filter fun leaf => Template.hasTokens leaf.2
  | .null, _ | .bool _, _ | .int _, _ | .float _, _ => rfl
  | .str text, _ => by
    rw [classify]
    cases htokens : Template.hasTokens text <;> simp [templates, texts, htokens]
  | .record fields, h => by
    rw [contains, Bool.or_eq_false_iff, Option.isSome_eq_false_iff, Option.isNone_iff_eq_none] at h
    rw [classify, h.1]
    exact fieldTemplates_of_not_contains path fields h.2
  | .list items, h => itemTemplates_of_not_contains path 0 items h

theorem itemTemplates_of_not_contains (path : String) (position : Nat) :
    ∀ items : List Json, itemsContain items = false →
      itemTemplates path position (classifyItems items) =
        (itemTexts path position items).filter fun leaf => Template.hasTokens leaf.2
  | [], _ => rfl
  | value :: rest, h => by
    rw [itemsContain, Bool.or_eq_false_iff] at h
    rw [itemTexts, List.filter_append, ← templates_of_not_contains _ value h.1,
      ← itemTemplates_of_not_contains path (position + 1) rest h.2]
    rfl

theorem fieldTemplates_of_not_contains (path : String) :
    ∀ fields : List (String × Json), fieldsContain fields = false →
      fieldTemplates path (classifyFields fields) =
        (fieldTexts path fields).filter fun leaf => Template.hasTokens leaf.2
  | [], _ => rfl
  | (key, value) :: rest, h => by
    rw [fieldsContain, Bool.or_eq_false_iff] at h
    rw [fieldTexts, List.filter_append, ← templates_of_not_contains _ value h.1,
      ← fieldTemplates_of_not_contains path rest h.2]
    rfl

end

variable {f : String → String}

/-- Members with other texts make no reference of the older kind. -/
theorem legacyToken?_mapFieldTexts (hf : ∀ text, f text = "data_point" → text = "data_point")
    {fields : Fields} (h : Fields.legacyToken? fields = none) :
    Fields.legacyToken? (mapFieldTexts f fields) = none := by
  rw [← Option.isNone_iff_eq_none, ← Option.isSome_eq_false_iff, ← Bool.not_eq_true,
    Fields.isSome_legacyToken?] at h ⊢
  rintro ⟨htype, id, hid⟩
  rw [Json.get?_mapFieldTexts, Option.map_eq_some_iff] at htype hid
  obtain ⟨kind, hkind, htype⟩ := htype
  obtain ⟨target, htarget, hid⟩ := hid
  obtain ⟨name, rfl, hname⟩ := Json.mapTexts_eq_str.1 htype
  obtain ⟨id, rfl, -⟩ := Json.mapTexts_eq_str.1 hid
  exact h ⟨hf name hname ▸ hkind, id, htarget⟩

mutual

theorem contains_mapTexts (hf : ∀ text, f text = "data_point" → text = "data_point") :
    ∀ value : Json, contains value = false → contains (mapTexts f value) = false
  | .null, _ | .bool _, _ | .int _, _ | .float _, _ | .str _, _ => rfl
  | .record fields, h => by
    rw [contains, Bool.or_eq_false_iff, Option.isSome_eq_false_iff, Option.isNone_iff_eq_none] at h
    rw [mapTexts, contains, legacyToken?_mapFieldTexts hf h.1, fieldsContain_mapTexts hf fields h.2]
    rfl
  | .list items, h => itemsContain_mapTexts hf items h

theorem itemsContain_mapTexts (hf : ∀ text, f text = "data_point" → text = "data_point") :
    ∀ items : List Json, itemsContain items = false → itemsContain (mapItemTexts f items) = false
  | [], _ => rfl
  | value :: rest, h => by
    rw [itemsContain, Bool.or_eq_false_iff] at h
    rw [mapItemTexts, itemsContain, contains_mapTexts hf value h.1, itemsContain_mapTexts hf rest h.2]
    rfl

theorem fieldsContain_mapTexts (hf : ∀ text, f text = "data_point" → text = "data_point") :
    ∀ fields : List (String × Json), fieldsContain fields = false →
      fieldsContain (mapFieldTexts f fields) = false
  | [], _ => rfl
  | (key, value) :: rest, h => by
    rw [fieldsContain, Bool.or_eq_false_iff] at h
    rw [mapFieldTexts, fieldsContain, contains_mapTexts hf value h.1, fieldsContain_mapTexts hf rest h.2]
    rfl

end

end Legacy

end Runbook
