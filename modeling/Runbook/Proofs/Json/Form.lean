import Runbook.Input
import Runbook.Json.Form
import Runbook.Json.Walk
import Runbook.Proofs.Json.Fields

/-!
# What a written record says

* `get?_fields_brief` — leaving out fields without a value takes away nothing but nulls.
* `texts_exchanged`, `templates_exchanged` — a value that is exchanged has the texts that it had, and those with
  tokens among them are the same.
-/

namespace Runbook

namespace Json

theorem text?_eq_some_iff {value : Json} {text : String} : value.text? = some text ↔ value = .str text := by
  cases value <;> simp [text?]

theorem text?_ofText? (text? : Option String) : (ofText? text?).text? = text? := by
  cases text? <;> rfl

theorem exchangedFields_eq_map (fields : Fields) :
    exchangedFields fields = fields.map fun field => (field.1, field.2.exchanged) := by
  induction fields with
  | nil => rfl
  | cons field fields ih => rw [exchangedFields, ih]; rfl

theorem get?_exchangedFields (key : String) (fields : Fields) :
    Fields.get? key (exchangedFields fields) = (Fields.get? key fields).map exchanged := by
  rw [exchangedFields_eq_map, Fields.get?_map_snd]

/-- A text is the same text when it is exchanged, and what is none does not become one. -/
theorem text?_exchanged (value : Json) : value.exchanged.text? = value.text? := by
  cases value with
  | float x => cases hx : x.isFinite <;> simp [exchanged, hx, text?]
  | _ => rfl

/-- Where no two fields have one name, leaving out those without a value leaves the others. -/
theorem get?_fields_brief {members : Fields} (distinct : members.Distinct) (key : String) :
    Fields.get? key (Form.brief.fields members) = Fields.present? key members := by
  induction members with
  | nil => rfl
  | cons field rest ih =>
    rw [Fields.Distinct, List.map_cons, List.nodup_cons] at distinct
    have hrest : Fields.get? key (Form.brief.fields rest) = Fields.present? key rest := ih distinct.2
    rw [Fields.present?, Fields.get?_cons]
    by_cases hkey : field.1 = key
    · -- a null that is left out is not found further on
      have hnone : Fields.get? key rest = none := Fields.get?_eq_none_iff.2 (hkey ▸ distinct.1)
      cases hnull : field.2.isNull with
      | true =>
        have hfields : Form.brief.fields (field :: rest) = Form.brief.fields rest := by simp [Form.fields, hnull]
        rw [hfields, hrest, Fields.present?, hnone, if_pos hkey, Option.filter_some, hnull]
        rfl
      | false =>
        have hfields : Form.brief.fields (field :: rest) = field :: Form.brief.fields rest := by
          simp [Form.fields, hnull]
        rw [hfields, Fields.get?_cons, if_pos hkey, if_pos hkey, Option.filter_some, hnull]
        rfl
    · rw [if_neg hkey, ← Fields.present?, ← hrest]
      cases hnull : field.2.isNull <;> simp [Form.fields, hnull, Fields.get?_cons, hkey]

mutual

theorem texts_exchanged (path : String) : ∀ value : Json, value.exchanged.texts path = value.texts path
  | null | bool _ | int _ | str _ => rfl
  | float x => by cases hx : x.isFinite <;> simp [exchanged, hx, texts]
  | list items => itemTexts_exchanged path 0 items
  | record fields => fieldTexts_exchanged path fields

theorem itemTexts_exchanged (path : String) (position : Nat) : ∀ items : List Json,
    itemTexts path position (exchangedItems items) = itemTexts path position items
  | [] => rfl
  | value :: rest => by
    rw [exchangedItems, itemTexts, itemTexts, texts_exchanged _ value, itemTexts_exchanged path _ rest]

theorem fieldTexts_exchanged (path : String) : ∀ fields : List (String × Json),
    fieldTexts path (exchangedFields fields) = fieldTexts path fields
  | [] => rfl
  | (key, value) :: rest => by
    rw [exchangedFields, fieldTexts, fieldTexts, texts_exchanged _ value, fieldTexts_exchanged path rest]

end

/-- What stands under a name is, as far as it is a text, the same when the record is exchanged. -/
theorem bind_text?_exchangedFields (key : String) (fields : Fields) :
    (Fields.get? key (exchangedFields fields)).bind text? = (Fields.get? key fields).bind text? := by
  rw [get?_exchangedFields]
  cases Fields.get? key fields with
  | none => rfl
  | some value => exact text?_exchanged value

/-- Only texts make a reference of the older kind. -/
theorem legacyToken?_eq_bind (fields : Fields) :
    Fields.legacyToken? fields = ((fields.get? "type").bind text?).bind fun type =>
      if type = "data_point" then
        ((fields.get? "dataPointId").bind text?).map fun id => ⟨id, (fields.get? "field").bind text?⟩
      else none := by
  unfold Fields.legacyToken?
  split
  · rename_i id htype hid
    simp [htype, hid, text?]
  · rename_i hnot
    cases htype : fields.get? "type" with
    | none => rfl
    | some type =>
      cases type with
      | str type =>
        by_cases heq : type = "data_point"
        · subst heq
          cases hid : fields.get? "dataPointId" with
          | none => simp [text?]
          | some id =>
            cases id with
            | str id => exact absurd hid (hnot id htype)
            | _ => simp [text?]
        · simp [text?, heq]
      | _ => rfl

theorem legacyToken?_exchangedFields (fields : Fields) :
    Fields.legacyToken? (exchangedFields fields) = Fields.legacyToken? fields := by
  simp only [legacyToken?_eq_bind, bind_text?_exchangedFields]

mutual

theorem templates_exchanged (path : String) : ∀ value : Json, value.exchanged.templates path = value.templates path
  | null | bool _ | int _ | str _ => rfl
  | float x => by
    cases hx : x.isFinite <;> simp [exchanged, hx, templates, Input.classify, Input.templates]
  | list items => itemTemplates_exchanged path 0 items
  | record fields => by
    rw [exchanged, templates, Input.classify, legacyToken?_exchangedFields, templates, Input.classify]
    split
    · rfl
    · exact fieldTemplates_exchanged path fields

theorem itemTemplates_exchanged (path : String) (position : Nat) : ∀ items : List Json,
    Input.itemTemplates path position (Input.classifyItems (exchangedItems items)) =
      Input.itemTemplates path position (Input.classifyItems items)
  | [] => rfl
  | value :: rest => by
    have hvalue := templates_exchanged (Path.item path position) value
    rw [exchangedItems, Input.classifyItems, Input.itemTemplates, Input.classifyItems, Input.itemTemplates,
      ← templates, ← templates, hvalue, itemTemplates_exchanged path _ rest]

theorem fieldTemplates_exchanged (path : String) : ∀ fields : List (String × Json),
    Input.fieldTemplates path (Input.classifyFields (exchangedFields fields)) =
      Input.fieldTemplates path (Input.classifyFields fields)
  | [] => rfl
  | (key, value) :: rest => by
    have hvalue := templates_exchanged (Path.member path key) value
    rw [exchangedFields, Input.classifyFields, Input.fieldTemplates, Input.classifyFields, Input.fieldTemplates,
      ← templates, ← templates, hvalue, fieldTemplates_exchanged path rest]

end

end Json

end Runbook
