import Runbook.Proofs.Workflow.Reread

/-!
# Workflows that are written, read and written again

What was written in brief and read is written as it was the first time if it is `Enduring`: a number that is not finite
is written as null, and null is left out when it is written again (`Workflow.toJson_settled_eq_iff`). Whether a workflow
is steady can be seen from the record that is written for it (`Workflow.steady_of_toJson_eq`).
-/

namespace Runbook

open Decode

/-! ## Members -/

namespace Json

mutual

/-- To exchange a value twice is to exchange it once. -/
theorem exchanged_exchanged : ∀ json : Json, json.exchanged.exchanged = json.exchanged
  | null | bool _ | int _ | str _ => rfl
  | float x => by cases hx : x.isFinite <;> simp [exchanged, hx]
  | list items => congrArg list (exchangedItems_exchangedItems items)
  | record fields => congrArg record (exchangedFields_exchangedFields fields)

theorem exchangedItems_exchangedItems : ∀ items : List Json,
    exchangedItems (exchangedItems items) = exchangedItems items
  | [] => rfl
  | item :: items => congrArg₂ List.cons (exchanged_exchanged item) (exchangedItems_exchangedItems items)

theorem exchangedFields_exchangedFields : ∀ fields : List (String × Json),
    exchangedFields (exchangedFields fields) = exchangedFields fields
  | [] => rfl
  | (key, item) :: fields =>
    congrArg₂ (fun item fields => (key, item) :: fields) (exchanged_exchanged item)
      (exchangedFields_exchangedFields fields)

end

/-- Does null stand for no value but null when a value is exchanged? -/
def Endures (json : Json) : Prop :=
  json.exchanged.isNull = json.isNull

instance (json : Json) : Decidable json.Endures :=
  inferInstanceAs (Decidable (_ = _))

theorem endures_iff (json : Json) : json.Endures ↔ (json.isNull = false → json.exchanged.isNull = false) := by
  unfold Endures
  cases hnull : json.isNull with
  | false => exact ⟨fun h _ => h, fun h => h rfl⟩
  | true =>
    have hjson : json = .null := by cases json <;> simp_all [isNull]
    simp [hjson, exchanged, isNull]

/-- Members that were written in brief and read are the same when that is done again if all of their values endure,
and only then. -/
theorem settledFields_settledFields_eq_iff (fields : Fields) :
    settledFields (settledFields fields) = settledFields fields ↔ ∀ field ∈ fields, field.2.Endures := by
  have hfinite : fieldsFinite (settledFields fields) = true :=
    (exchangedFields_eq_self_iff _).1 (exchangedFields_exchangedFields _)
  rw [settledFields_eq_self_iff, Lasting, and_iff_left hfinite, settledFields, exchangedFields_eq_map,
    List.forall_mem_map]
  simp only [Form.fields, List.mem_filter, Bool.not_eq_true', and_imp, endures_iff]

end Json

/-- The record in brief of the same fields with members that were written and read. -/
theorem Decode.briefFields_settledFields_eq_iff (members extras : Fields) :
    briefFields members (Json.settledFields extras) = briefFields members extras ↔
      ∀ field ∈ extras, field.2.Endures := by
  rw [← Json.settledFields_settledFields_eq_iff]
  exact List.append_right_inj _

/-- Whether a member without a meaning stands for a field that has no value can be seen from a record in brief. -/
theorem Decode.stands_iff {α : Type} {allNames : List Names} {members extras : Fields} {name other : String}
    {value? : Option α} {write : α → Json} (distinct : members.Distinct) (spare : Spare allNames extras)
    (hname : name ∈ allNames.filterMap List.head?) (hother : other ∉ members.map Prod.fst)
    (hget : members.get? name = some (Json.ofOption write value?)) (hwrite : ∀ a, (write a).isNull = false) :
    (value? = none → extras.present? other = none) ↔
      ((briefFields members extras).get? name = none → (briefFields members extras).get? other = none) := by
  have hnone : value? = none ↔ members.present? name = none := by
    refine ⟨fun h => ?_, eq_none_of_present? hget hwrite⟩
    rw [Fields.present?, hget, h]
    rfl
  rw [get?_briefFields distinct (spare.free name hname), get?_briefFields_of_notMember hother spare.distinct,
    Option.map_eq_none_iff, hnone]

/-! ## Triggers, steps and data points -/

theorem Trigger.toJson_settled_eq_iff (t : Trigger) :
    t.settled.toJson .brief = t.toJson .brief ↔ ∀ field ∈ t.extras, field.2.Endures := by
  rw [toJson_brief, toJson_brief, Json.record.injEq]
  exact briefFields_settledFields_eq_iff t.members t.extras

theorem Step.toJson_settled_eq_iff (s : Step) :
    s.settled.toJson .brief = s.toJson .brief ↔ ∀ field ∈ s.extras, field.2.Endures := by
  have hmembers : s.settled.members = s.members := by
    simp only [members, settled, Json.exchanged, Json.exchangedFields_exchangedFields]
  rw [toJson_brief, toJson_brief, hmembers, Json.record.injEq]
  exact briefFields_settledFields_eq_iff s.members s.extras

theorem Step.steady_iff {s : Step} (spare : Spare fieldNames s.extras) :
    s.Steady ↔
      (((s.toJson .brief).get? "taskId" = none → (s.toJson .brief).get? "task_id" = none) ∧
        ((s.toJson .brief).get? "handlerId" = none → (s.toJson .brief).get? "handler_id" = none)) := by
  have htask : s.members.get? "taskId" = some (Json.ofOption .str s.taskId) := ofText?_eq_ofOption s.taskId ▸ rfl
  have hhandler : s.members.get? "handlerId" = some (Json.ofOption .str s.handlerId) :=
    ofText?_eq_ofOption s.handlerId ▸ rfl
  rw [toJson_brief, Json.get?, Json.get?, Json.get?, Json.get?,
    ← stands_iff s.distinct_members spare (by decide) (by simp [members]) htask fun _ => rfl,
    ← stands_iff s.distinct_members spare (by decide) (by simp [members]) hhandler fun _ => rfl]
  exact ⟨fun h => ⟨h.taskId, h.handlerId⟩, fun h => ⟨h.1, h.2⟩⟩

theorem DataPoint.toJson_settled_eq_iff (p : DataPoint) :
    p.settled.toJson .brief = p.toJson .brief ↔ p.value.Endures := by
  -- the value is all that is not the same in the two, and it is left out if it is null
  have hwritten : ∀ value : Json, DataPoint.toJson .brief { p with value := value } =
      .record (("id", .str p.id) :: ("name", .str p.name) :: ("type", .str p.kind.name) ::
        ((if value.isNull then [] else [("value", value.exchanged)]) ++
          [("source", .str p.source), ("timestamp", .int p.timestamp)])) := by
    intro value
    cases value <;> rfl
  show DataPoint.toJson .brief { p with value := p.value.exchanged } =
    DataPoint.toJson .brief { p with value := p.value } ↔ _
  rw [hwritten, hwritten, Json.exchanged_exchanged, Json.Endures]
  cases p.value.isNull <;> cases p.value.exchanged.isNull <;> simp

/-! ## Workflows -/

namespace Workflow

/-- Does each member without a meaning and the value of each data point endure? -/
structure Enduring (w : Workflow) : Prop where
  steps : ∀ s ∈ w.steps, ∀ field ∈ s.extras, field.2.Endures
  triggers : ∀ t ∈ w.triggers, ∀ field ∈ t.extras, field.2.Endures
  dataPoints : ∀ p ∈ w.dataPoints, p.value.Endures
  extras : ∀ field ∈ w.extras, field.2.Endures

/-- A workflow that was written and read is written as it was before if it is enduring, and only then. -/
theorem toJson_settled_eq_iff (w : Workflow) : w.settled.toJson .brief = w.toJson .brief ↔ w.Enduring := by
  have hlists : w.settled.toJson .brief = w.toJson .brief ↔
      w.settled.steps.map (Step.toJson .brief) = w.steps.map (Step.toJson .brief) ∧
        w.settled.triggers.map (Trigger.toJson .brief) = w.triggers.map (Trigger.toJson .brief) ∧
          w.settled.dataPoints.map (DataPoint.toJson .brief) = w.dataPoints.map (DataPoint.toJson .brief) ∧
            Json.settledFields (Json.settledFields w.extras) = Json.settledFields w.extras := by
    simp only [toJson_brief, briefFields, members, settled]
    cases w.id <;> cases w.websites <;>
      simp [Json.Form.fields, Json.ofText?, Json.ofOption, Websites.toJson, Json.isNull, Json.settledFields]
  rw [hlists, settled]
  simp only [List.map_map, List.map_inj_left, Function.comp_apply, Step.toJson_settled_eq_iff,
    Trigger.toJson_settled_eq_iff, DataPoint.toJson_settled_eq_iff, Json.settledFields_settledFields_eq_iff]
  constructor
  · rintro ⟨steps, triggers, dataPoints, extras⟩
    exact ⟨steps, triggers, dataPoints, extras⟩
  · intro h
    exact ⟨h.steps, h.triggers, h.dataPoints, h.extras⟩

/-- Of two workflows that are written in the same way one is steady if the other is. -/
theorem steady_of_toJson_eq {w w' : Workflow} (h : w.Coherent) (h' : w'.Coherent)
    (heq : w.toJson .brief = w'.toJson .brief) (steady : w.Steady) : w'.Steady := by
  have hsteps : w.steps.map (Step.toJson .brief) = w'.steps.map (Step.toJson .brief) := by
    have hget := congrArg (Json.get? "steps") heq
    rw [toJson_brief, toJson_brief, Json.get?, Json.get?, get?_written h.spare (by decide) rfl rfl,
      get?_written h'.spare (by decide) rfl rfl] at hget
    exact Json.list.inj (Option.some.inj hget)
  constructor
  · intro s' hs'
    obtain ⟨s, hs, hjson⟩ := List.mem_map.1 (hsteps ▸ List.mem_map_of_mem hs')
    have hsteady := (Step.steady_iff (h.steps s hs).spare).1 (steady.steps s hs)
    rw [hjson] at hsteady
    exact (Step.steady_iff (h'.steps s' hs').spare).2 hsteady
  · have hget : ∀ w : Workflow, w.members.get? "websiteConfig" = some (Json.ofOption Websites.toJson w.websites) :=
      fun _ => rfl
    have hwebsites := (stands_iff w.distinct_members h.spare (by decide) (by simp [members]) (hget w)
      fun _ => rfl).1 steady.websites
    rw [toJson_brief, toJson_brief, Json.record.injEq] at heq
    rw [heq] at hwebsites
    exact (stands_iff w'.distinct_members h'.spare (by decide) (by simp [members]) (hget w') fun _ => rfl).2 hwebsites

end Workflow

end Runbook
