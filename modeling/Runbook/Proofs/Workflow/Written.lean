import Runbook.Proofs.Json.Form
import Runbook.Proofs.Validation.Steps
import Runbook.Proofs.Workflow.Decode

/-!
# Workflows as they are written

Triggers, steps and workflows are written in brief with their fields first and the members that no field took
after them. Such a member never has the name of a field, so that under the name of a field its value stands, or
null (`memberOf_briefFields`).
-/

namespace Runbook

open Decode Validation

/-! ## Members that no field took -/

/-- No member that was not taken has the first name of a field. -/
theorem Decode.get?_extras {name : String} {allNames : List Names} (h : name ∈ allNames.filterMap List.head?)
    (fields : Fields) : Fields.get? name (extras allNames fields) = none := by
  rw [Fields.get?_eq_none_iff, List.mem_map]
  rintro ⟨field, hfield, rfl⟩
  obtain ⟨hmem, htaken⟩ := List.mem_filter.1 hfield
  obtain ⟨value, hvalue⟩ : ∃ value, fields.get? field.1 = some value := by
    rw [← Option.isSome_iff_exists, Option.isSome_iff_ne_none, Ne, Fields.get?_eq_none_iff, not_not]
    exact List.mem_map_of_mem hmem
  obtain ⟨names, hnames, hhead⟩ := List.mem_filterMap.1 h
  obtain ⟨more, rfl⟩ := List.head?_eq_some_iff.1 hhead
  have hfound : field.1 ∈ allNames.filterMap fun names => (find names fields).map Prod.fst :=
    List.mem_filterMap.2 ⟨_, hnames, by rw [find_of_get? hvalue]; rfl⟩
  simp [hfound] at htaken

/-- The members of a record in brief: those of its fields that have a value, and those that no field took. -/
def briefFields (members extras : Fields) : Fields :=
  Json.Form.brief.fields members ++ Json.exchangedFields (Json.Form.brief.fields extras)

/-- Under a name that no other member has, a field is found if it has a value. -/
theorem get?_briefFields {members extras : Fields} {name : String} (distinct : members.Distinct)
    (free : extras.get? name = none) : (briefFields members extras).get? name = members.present? name := by
  have hnone : Fields.get? name (Json.exchangedFields (Json.Form.brief.fields extras)) = none := by
    rw [Json.get?_exchangedFields, Option.map_eq_none_iff, Fields.get?_eq_none_iff]
    rw [Fields.get?_eq_none_iff] at free
    exact fun hmem => free ((List.filter_sublist.map _).subset hmem)
  rw [briefFields, Fields.get?_append, hnone, Option.or_none, Json.get?_fields_brief distinct]

/-- Under the name of a field its value stands, or null. -/
theorem memberOf_briefFields {members extras : Fields} {key : String} (distinct : members.Distinct)
    (free : extras.get? key = none) : memberOf key (briefFields members extras) = memberOf key members := by
  rw [memberOf, get?_briefFields distinct free, memberOf, Fields.present?]
  cases hget : Fields.get? key members with
  | none => rfl
  | some value => cases value <;> rfl

/-- What holds of every value that is accepted holds of one that may be null. -/
theorem Decode.of_nullable {α : Type} {decode : Json → Decoded α} {json : Json} {P : α → Prop} {found : Option α}
    (h : nullable decode json = .accepted found) (hdecode : ∀ a, decode json = .accepted a → P a) :
    ∀ a, found = some a → P a := by
  rintro a rfl
  unfold nullable at h
  split at h
  · cases h
  · obtain ⟨b, hb, hab⟩ := Decoded.map_eq_accepted.1 h
    exact hdecode a (Option.some.inj hab ▸ hb)

/-! ## Triggers -/

namespace Trigger

/-- The fields of a trigger, as they are written. -/
def members (t : Trigger) : Fields :=
  [("type", .str t.kind.name), ("pattern", Json.ofText? t.pattern), ("selector", Json.ofText? t.selector),
    ("schedule", Json.ofText? t.schedule), ("shortcut", Json.ofText? t.shortcut)]

theorem toJson_brief (t : Trigger) : t.toJson .brief = .record (briefFields t.members t.extras) := by
  have htext : ∀ text?, (Json.ofText? text?).exchanged = Json.ofText? text? := by
    intro text?
    cases text? <;> rfl
  have hmembers : ∀ field ∈ Json.Form.brief.fields t.members, (field.1, field.2.exchanged) = id field := by
    intro field hfield
    have hmem := List.mem_of_mem_filter hfield
    simp only [members, List.mem_cons, List.not_mem_nil, or_false] at hmem
    rcases hmem with rfl | rfl | rfl | rfl | rfl
    · rfl
    all_goals exact congrArg (Prod.mk _) (htext _)
  show Json.record (Json.exchangedFields (Json.Form.brief.fields (t.members ++ t.extras))) = _
  have happend : Json.Form.brief.fields (t.members ++ t.extras) =
      Json.Form.brief.fields t.members ++ Json.Form.brief.fields t.extras := List.filter_append _ _
  rw [happend, Json.exchangedFields_eq_map, List.map_append, List.map_congr_left hmembers, List.map_id,
    ← Json.exchangedFields_eq_map]
  rfl

theorem extras_of_decodeFields {fields : Fields} {t : Trigger} (h : decodeFields fields = .accepted t) :
    t.extras = Decode.extras fieldNames fields := by
  simp only [decodeFields, Decoded.seq_eq_accepted, Decoded.map_eq_accepted] at h
  obtain ⟨_, _, ⟨_, _, ⟨_, _, ⟨_, _, ⟨_, _, ⟨_, -, rfl⟩, -, rfl⟩, -, rfl⟩, -, rfl⟩, -, rfl⟩, hextras, rfl⟩ := h
  exact (Decoded.accepted.inj hextras).symm

theorem extras_of_decode {json : Json} {t : Trigger} (h : decode json = .accepted t) :
    ∃ fields, t.extras = Decode.extras fieldNames fields := by
  cases json with
  | record fields => exact ⟨fields, extras_of_decodeFields h⟩
  | _ => cases h

theorem memberOf_written {json : Json} {t : Trigger} (h : decode json = .accepted t) {key : String}
    (hkey : key ∈ fieldNames.filterMap List.head?) :
    memberOf key (briefFields t.members t.extras) = memberOf key t.members := by
  obtain ⟨fields, hextras⟩ := extras_of_decode h
  rw [hextras]
  exact memberOf_briefFields (by simp [Fields.Distinct, members]) (get?_extras hkey fields)

end Trigger

/-! ## Steps -/

namespace Step

/-- The fields of a step, as they are written. -/
def members (s : Step) : Fields :=
  [("id", .str s.id), ("type", .str s.kind.name), ("taskId", Json.ofText? s.taskId),
    ("handlerId", Json.ofText? s.handlerId), ("input", (Json.record s.input).exchanged),
    ("condition", Json.ofText? s.condition), ("delay", Json.ofOption .float s.delay),
    ("retry", Json.ofOption Retry.toJson s.retry)]

theorem toJson_brief (s : Step) : s.toJson .brief = .record (briefFields s.members s.extras) := rfl

/-- What the decoding makes sure of in a step. -/
structure Decent (s : Step) : Prop where
  delay : ∀ delay, s.delay = some delay → 0.0 ≤ delay
  retry : ∀ retry, s.retry = some retry → retry.Allowed
  extras : ∃ fields, s.extras = Decode.extras fieldNames fields

theorem decent_of_decode {json : Json} {s : Step} (h : decode json = .accepted s) : s.Decent := by
  cases json with
  | record fields =>
    have decodes : s.Decodes fields := decodes_of_decodeFields h
    exact
      { delay := of_optional decodes.delay (by simp) fun _ _ h =>
          of_nullable h fun _ h => (numberFrom_eq_accepted.1 h).2
        retry := of_optional decodes.retry (by simp) fun _ _ h =>
          of_nullable h fun _ h => Retry.allowed_of_decode h
        extras := ⟨fields, decodes.extras⟩ }
  | _ => cases h

theorem Decent.memberOf_written {s : Step} (h : s.Decent) {key : String}
    (hkey : key ∈ fieldNames.filterMap List.head?) :
    memberOf key (briefFields s.members s.extras) = memberOf key s.members := by
  obtain ⟨fields, hextras⟩ := h.extras
  rw [hextras]
  exact memberOf_briefFields (by simp [Fields.Distinct, members]) (get?_extras hkey fields)

end Step

/-! ## Workflows -/

namespace Workflow

/-- The fields of a workflow, as they are written. -/
def members (w : Workflow) : Fields :=
  [("id", Json.ofText? w.id), ("name", .str w.name), ("description", .str w.description),
    ("steps", .list (w.steps.map (Step.toJson .brief))),
    ("triggers", .list (w.triggers.map (Trigger.toJson .brief))),
    ("dataPoints", .list (w.dataPoints.map (DataPoint.toJson .brief))), ("enabled", .bool w.enabled),
    ("createdAt", .int w.createdAt), ("updatedAt", .int w.updatedAt), ("version", .str w.version),
    ("websiteConfig", Json.ofOption Websites.toJson w.websites)]

theorem toJson_brief (w : Workflow) : w.toJson .brief = .record (briefFields w.members w.extras) := rfl

variable {now : Int} {fields : Fields} {w : Workflow}

theorem Decodes.memberOf_written (h : w.Decodes now fields) {key : String}
    (hkey : key ∈ fieldNames.filterMap List.head?) :
    memberOf key (briefFields w.members w.extras) = memberOf key w.members := by
  rw [h.extras]
  exact memberOf_briefFields (by simp [Fields.Distinct, members]) (get?_extras hkey fields)

end Workflow

end Runbook
