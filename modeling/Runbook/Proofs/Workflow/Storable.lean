import Runbook.Proofs.Decode.Readable
import Runbook.Proofs.Workflow.Written
import Runbook.Storage.Records

/-!
# What is accepted can be written and read back

Of a value that can be read, a trigger, a step, a data point or a workflow is accepted only if it is `Storable`: what
its fields require holds of it, and all that it holds can be read back (`Workflow.storable_of_decode`). So can the
record that is written for it (`Workflow.Storable.readable`), a record in brief, of which the first part says when its
fields are found again.
-/

/-!
## Records in brief

A record in brief (`briefFields`) has the fields that have a value, and after them the members that no field took.
When it is decoded again, each field is found under its first name or not at all, as long as no member that was not
taken stands under the second name of a field without a value (`Brief`). Then the members that no field takes are those
that no field took, written and read (`Brief.extras_eq`).
-/

namespace Runbook.Decode

open Decoded

variable {α : Type} {name other : String} {others : Names} {allNames : List Names}
  {members extras fields : Fields} {json : Json} {decode : Json → Decoded α}

theorem get?_briefFields_of_notMember (hname : name ∉ members.map Prod.fst) (distinct : extras.Distinct) :
    (briefFields members extras).get? name = (extras.present? name).map Json.exchanged := by
  have hnone : Fields.get? name (Json.Form.brief.fields members) = none := by
    rw [Fields.get?_eq_none_iff]
    exact fun hmem => hname (((Json.fields_brief_sublist members).map _).subset hmem)
  rw [briefFields, Fields.get?_append, hnone, Option.none_or, Json.get?_exchangedFields,
    Json.get?_fields_brief distinct]

/-- A field that has no null for its value is found as it is. -/
theorem present?_of_get? (h : members.get? name = some json) (hnull : json.isNull = false) :
    members.present? name = some json := by
  rw [Fields.present?, h, Option.filter_some, hnull]
  rfl

/-- Where a field that may be without a value is not there, it has none. -/
theorem eq_none_of_present? {value? : Option α} {write : α → Json}
    (hget : members.get? name = some (Json.ofOption write value?)) (hwrite : ∀ a, (write a).isNull = false)
    (h : members.present? name = none) : value? = none := by
  cases value? with
  | none => rfl
  | some a =>
    rw [present?_of_get? hget (hwrite a)] at h
    cases h

theorem ofText?_eq_ofOption (text? : Option String) : Json.ofText? text? = Json.ofOption .str text? := by
  cases text? <;> rfl

theorem present?_ne_null (fields : Fields) (name : String) : fields.present? name ≠ some .null := by
  intro h
  obtain ⟨-, hnull⟩ := Option.filter_eq_some_iff.1 h
  cases hnull

theorem present?_eq_none (h : fields.get? name = none) : fields.present? name = none := by
  rw [Fields.present?, h, Option.filter_none]

/-- Have these members different names, none of which is the first name of a field? -/
structure Spare (allNames : List Names) (extras : Fields) : Prop where
  distinct : extras.Distinct
  free : ∀ name ∈ allNames.filterMap List.head?, extras.get? name = none

theorem spare_extras (distinct : fields.Distinct) (allNames : List Names) :
    Spare allNames (Decode.extras allNames fields) :=
  ⟨distinct.sublist ((extras_sublist allNames fields).map _), fun _ hname => get?_extras hname fields⟩

/-- Are these members left over by the fields, and can they be read back? None has the first name of a field. -/
structure Rest (allNames : List Names) (extras : Fields) : Prop where
  readable : (Json.record extras).Readable
  free : ∀ name ∈ allNames.filterMap List.head?, extras.get? name = none

theorem rest_extras (readable : (Json.record fields).Readable) (allNames : List Names) :
    Rest allNames (Decode.extras allNames fields) :=
  ⟨readable_extras readable allNames, fun _ hname => get?_extras hname fields⟩

theorem Rest.spare (h : Rest allNames extras) : Spare allNames extras :=
  ⟨h.readable.1, h.free⟩

/-! ### Fields that are found again -/

/-- Is each field of a record in brief found under its first name if it has a value, and else not at all? -/
structure Brief (allNames : List Names) (members extras : Fields) : Prop where
  names : members.map Prod.fst = allNames.filterMap List.head?
  distinct : members.Distinct
  spare : Spare allNames extras
  found : ∀ name others, name :: others ∈ allNames →
    find (name :: others) (briefFields members extras) = (members.present? name).map fun json => (name, json)

/-- Fields are found again if no member that was not taken has the second name of a field without a value. -/
theorem brief_of_steady (names : members.map Prod.fst = allNames.filterMap List.head?) (distinct : members.Distinct)
    (spare : Spare allNames extras)
    (steady : ∀ name others, name :: others ∈ allNames → members.present? name = none →
      ∀ other ∈ others, other ∉ members.map Prod.fst ∧ extras.present? other = none) :
    Brief allNames members extras := by
  refine ⟨names, distinct, spare, ?_⟩
  intro name others hnames
  have hfirst := get?_briefFields distinct (spare.free name (List.mem_filterMap.2 ⟨_, hnames, rfl⟩))
  cases hpresent : members.present? name with
  | some json =>
    rw [hpresent] at hfirst
    exact find_of_get? hfirst
  | none =>
    rw [hpresent] at hfirst
    apply List.findSome?_eq_none_iff.2
    intro other hother
    rw [Option.map_eq_none_iff]
    rcases List.mem_cons.1 hother with rfl | hother
    · exact hfirst
    · obtain ⟨hmember, hnone⟩ := steady name others hnames hpresent other hother
      rw [get?_briefFields_of_notMember hmember spare.distinct, hnone, Option.map_none]

namespace Brief

theorem required_eq {a : α} (h : Brief allNames members extras) (hnames : name :: others ∈ allNames)
    (hget : members.get? name = some json) (hnull : json.isNull = false) (hdecode : decode json = accepted a) :
    required (name :: others) decode (briefFields members extras) = accepted a := by
  rw [required, h.found name others hnames, present?_of_get? hget hnull]
  exact within_eq_accepted.2 hdecode

theorem optional_eq {a absent : α} (h : Brief allNames members extras) (hnames : name :: others ∈ allNames)
    (hget : members.get? name = some json) (hnull : json.isNull = false) (hdecode : decode json = accepted a) :
    optional (name :: others) decode absent (briefFields members extras) = accepted a := by
  rw [optional, h.found name others hnames, present?_of_get? hget hnull]
  exact within_eq_accepted.2 hdecode

/-- A field that may be without a value is decoded as it was written, or left out. -/
theorem nullable_eq {value? : Option α} {write : α → Json} (h : Brief allNames members extras)
    (hnames : name :: others ∈ allNames) (hget : members.get? name = some (Json.ofOption write value?))
    (hdecode : ∀ a, value? = some a → (write a).isNull = false ∧ decode (write a) = accepted a) :
    optional (name :: others) (nullable decode) none (briefFields members extras) = accepted value? := by
  cases value? with
  | none =>
    have hnone : members.present? name = none := by
      rw [Fields.present?, hget]
      rfl
    rw [optional, h.found name others hnames, hnone]
    rfl
  | some a =>
    obtain ⟨hnull, ha⟩ := hdecode a rfl
    refine h.optional_eq hnames hget hnull ?_
    unfold nullable
    split
    · rename_i hwrite
      exact absurd (hwrite ▸ hnull : Json.isNull .null = false) (by decide)
    · exact map_eq_accepted.2 ⟨a, ha, rfl⟩

theorem text_eq {text? : Option String} (h : Brief allNames members extras) (hnames : name :: others ∈ allNames)
    (hget : members.get? name = some (Json.ofText? text?)) :
    optional (name :: others) (nullable text) none (briefFields members extras) = accepted text? := by
  rw [ofText?_eq_ofOption] at hget
  exact h.nullable_eq hnames hget fun s _ => ⟨rfl, rfl⟩

/-- The names that are taken are those of the fields that have a value. -/
theorem mem_taken_iff (h : Brief allNames members extras) :
    name ∈ taken allNames (briefFields members extras) ↔ name ∈ (Json.Form.brief.fields members).map Prod.fst := by
  have hbrief : name ∈ (Json.Form.brief.fields members).map Prod.fst ↔ members.present? name ≠ none := by
    rw [← Json.get?_fields_brief h.distinct, Ne, Fields.get?_eq_none_iff, not_not]
  rw [hbrief, Decode.mem_taken_iff]
  constructor
  · rintro ⟨names, hnames, hfind⟩
    cases names with
    | nil => cases hfind
    | cons first others =>
      rw [h.found first others hnames, Option.map_map, Option.map_eq_some_iff] at hfind
      obtain ⟨json, hjson, rfl⟩ := hfind
      show members.present? first ≠ none
      simp [hjson]
  · intro hpresent
    obtain ⟨json, hjson⟩ := Option.ne_none_iff_exists'.1 hpresent
    have hname : name ∈ members.map Prod.fst := by
      obtain ⟨hget, -⟩ := Option.filter_eq_some_iff.1 hjson
      exact List.mem_map.2 ⟨_, mem_of_get? hget, rfl⟩
    rw [h.names, List.mem_filterMap] at hname
    obtain ⟨names, hnames, hhead⟩ := hname
    obtain ⟨others, rfl⟩ := List.head?_eq_some_iff.1 hhead
    exact ⟨_, hnames, by rw [h.found name others hnames, hjson]; rfl⟩

/-- The members that no field takes are those that no field took, written and read. -/
theorem extras_eq (h : Brief allNames members extras) :
    Decode.extras allNames (briefFields members extras) = Json.settledFields extras := by
  have hfields : ∀ field ∈ Json.Form.brief.fields members,
      (!(taken allNames (briefFields members extras)).contains field.1) = false := by
    intro field hfield
    simpa using h.mem_taken_iff.2 (List.mem_map_of_mem hfield)
  have hothers : ∀ field ∈ Json.settledFields extras,
      (!(taken allNames (briefFields members extras)).contains field.1) = true := by
    intro field hfield
    have hextra := Json.map_fst_settledFields_subset extras (List.mem_map_of_mem hfield)
    have hnot : field.1 ∉ taken allNames (briefFields members extras) := by
      rw [h.mem_taken_iff]
      intro hmember
      have hname := ((Json.fields_brief_sublist members).map Prod.fst).subset hmember
      have hfree := h.spare.free _ (h.names ▸ hname)
      exact Fields.get?_eq_none_iff.1 hfree hextra
    simpa using hnot
  show (Json.Form.brief.fields members ++ Json.settledFields extras).filter
    (fun field => !(taken allNames (briefFields members extras)).contains field.1) = _
  rw [List.filter_append, List.filter_eq_nil_iff.2 fun field hfield => Bool.eq_false_iff.1 (hfields field hfield),
    List.filter_eq_self.2 hothers, List.nil_append]

end Brief

theorem distinct_briefFields (names : members.map Prod.fst = allNames.filterMap List.head?)
    (distinct : members.Distinct) (spare : Spare allNames extras) : (briefFields members extras).Distinct := by
  rw [Fields.Distinct, briefFields, List.map_append, List.nodup_append]
  refine ⟨distinct.sublist ((Json.fields_brief_sublist members).map _), ?_, ?_⟩
  · rw [Json.map_fst_exchangedFields]
    exact spare.distinct.sublist ((Json.fields_brief_sublist extras).map _)
  · intro name hname name' hname' heq
    subst heq
    have hmember := ((Json.fields_brief_sublist members).map _).subset hname
    have hextra := Json.map_fst_settledFields_subset extras hname'
    exact Fields.get?_eq_none_iff.1 (spare.free name (names ▸ hmember)) hextra

/-- A record in brief can be read back if the values of its fields can. -/
theorem readable_briefFields (names : members.map Prod.fst = allNames.filterMap List.head?)
    (readable : (Json.record members).Readable) (rest : Rest allNames extras) :
    (Json.record (briefFields members extras)).Readable := by
  have hfields := Json.readable_record_of_sublist readable (Json.fields_brief_sublist members)
  have hothers : (Json.record (Json.settledFields extras)).Readable :=
    Json.readable_exchanged _ (Json.readable_record_of_sublist rest.readable (Json.fields_brief_sublist extras))
  rw [Json.readable_record_iff] at hfields hothers ⊢
  exact ⟨distinct_briefFields names readable.1 rest.spare, List.forall_mem_append.2 ⟨hfields.2, hothers.2⟩⟩

/-! ### Members under a second name -/

/-- A field that came to no value, and not by null under its first name, leaves no member under its second name. -/
theorem present?_extras_of_none (h : optional [name, other] (nullable decode) none fields = accepted none)
    (hnull : fields.get? name ≠ some .null) (hnames : [name, other] ∈ allNames) :
    (Decode.extras allNames fields).present? other = none := by
  apply present?_eq_none
  rw [Fields.get?_eq_none_iff]
  intro hmem
  obtain ⟨field, hfield, rfl⟩ := List.mem_map.1 hmem
  rw [extras_eq_filter, List.mem_filter] at hfield
  obtain ⟨hmember, hnot⟩ := hfield
  obtain ⟨value, hvalue⟩ := Option.ne_none_iff_exists'.1
    (mt Fields.get?_eq_none_iff.1 (not_not.2 (List.mem_map_of_mem (f := Prod.fst) hmember)))
  cases hfirst : fields.get? name with
  | some json =>
    rw [optional_of_get? hfirst] at h
    unfold nullable at h
    split at h
    · exact hnull hfirst
    · obtain ⟨_, -, hsome⟩ := map_eq_accepted.1 h
      cases hsome
  | none =>
    have hfind : find [name, field.1] fields = some (field.1, value) := by
      simp [find, hfirst, hvalue]
    have htakes : field.1 ∈ taken allNames fields := mem_taken_iff.2 ⟨_, hnames, by rw [hfind]; rfl⟩
    simp [htakes] at hnot

end Runbook.Decode

/-! ## Records that can be stored -/

namespace Runbook

open Decode

/-! ### Triggers -/

namespace Trigger

theorem names_members (t : Trigger) : t.members.map Prod.fst = fieldNames.filterMap List.head? := rfl

theorem distinct_members (t : Trigger) : t.members.Distinct := by
  simp [Fields.Distinct, members]

theorem rest_of_decode {json : Json} {t : Trigger} (readable : json.Readable) (h : decode json = .accepted t) :
    Rest fieldNames t.extras := by
  cases json with
  | record fields => exact extras_of_decodeFields h ▸ rest_extras readable fieldNames
  | _ => cases h

theorem readable_toJson {t : Trigger} (rest : Rest fieldNames t.extras) : (t.toJson .brief).Readable := by
  have hmembers : (Json.record t.members).Readable :=
    ⟨t.distinct_members, trivial, Json.readable_ofText? _, Json.readable_ofText? _, Json.readable_ofText? _,
      Json.readable_ofText? _, trivial⟩
  rw [toJson_brief]
  exact readable_briefFields t.names_members hmembers rest

end Trigger

/-! ### Steps -/

namespace Retry

/-- What makes sure that a retry rule can be written and read back. -/
structure Storable (r : Retry) : Prop where
  allowed : r.Allowed
  maxAttempts : (Json.int r.maxAttempts).Readable

theorem storable_of_decode {json : Json} {r : Retry} (readable : json.Readable) (h : decode json = .accepted r) :
    r.Storable := by
  refine ⟨allowed_of_decode h, ?_⟩
  cases json with
  | record fields =>
    have hfields : decodeFields fields = .accepted r := h
    simp only [decodeFields, Decoded.seq_eq_accepted, Decoded.map_eq_accepted] at hfields
    obtain ⟨_, _, ⟨_, _, ⟨_, hattempts, rfl⟩, -, rfl⟩, -, rfl⟩ := hfields
    exact of_optional_readable (P := fun n => (Json.int n).Readable) hattempts readable (by decide) fun _ _ hread h =>
      readable_of_integer hread (integerFrom_eq_accepted.1 h).1
  | _ => cases h

theorem Storable.readable {r : Retry} (h : r.Storable) : r.toJson.Readable :=
  ⟨by simp [Fields.Distinct], h.maxAttempts, trivial, trivial, trivial⟩

end Retry

namespace Step

/-- What makes sure that a step can be written and read back. -/
structure Storable (s : Step) : Prop where
  delay : ∀ delay, s.delay = some delay → 0.0 ≤ delay
  retry : ∀ retry, s.retry = some retry → retry.Storable
  input : (Json.record s.input).Readable
  rest : Rest fieldNames s.extras

theorem names_members (s : Step) : s.members.map Prod.fst = fieldNames.filterMap List.head? := rfl

theorem distinct_members (s : Step) : s.members.Distinct := by
  simp [Fields.Distinct, members]

theorem storable_of_decode {json : Json} {s : Step} (readable : json.Readable) (h : decode json = .accepted s) :
    s.Storable := by
  have decent := decent_of_decode h
  cases json with
  | record fields =>
    have decodes : s.Decodes fields := decodes_of_decodeFields h
    exact
      { delay := decent.delay
        retry := of_optional_readable (P := fun found => ∀ retry, found = some retry → retry.Storable) decodes.retry
          readable (by simp) fun _ _ hread h => of_nullable (P := Retry.Storable) h fun _ =>
            Retry.storable_of_decode hread
        input := of_map_readable decodes.input readable
        rest := decodes.extras ▸ rest_extras readable fieldNames }
  | _ => cases h

theorem Storable.readable {s : Step} (h : s.Storable) : (s.toJson .brief).Readable := by
  have hdelay : (Json.ofOption .float s.delay).Readable := by
    cases s.delay <;> trivial
  have hretry : (Json.ofOption Retry.toJson s.retry).Readable := by
    cases hretry : s.retry with
    | none => trivial
    | some retry => exact (h.retry retry hretry).readable
  have hmembers : (Json.record s.members).Readable :=
    ⟨s.distinct_members, trivial, trivial, Json.readable_ofText? _, Json.readable_ofText? _,
      Json.readable_exchanged _ h.input, Json.readable_ofText? _, hdelay, hretry, trivial⟩
  rw [toJson_brief]
  exact readable_briefFields s.names_members hmembers h.rest

end Step

/-! ### Data points -/

namespace DataPoint

/-- What makes sure that a data point can be written and read back. -/
structure Storable (p : DataPoint) : Prop where
  id : p.id.isEmpty = false
  value : p.value.Readable
  timestamp : (Json.int p.timestamp).Readable

theorem isEmpty_of_nonEmptyText {json : Json} {s : String} (h : nonEmptyText json = .accepted s) :
    s.isEmpty = false := by
  unfold nonEmptyText text at h
  split at h
  · simp only [Decoded.andThen] at h
    split at h
    · cases h
    · rename_i hempty
      exact Decoded.accepted.inj h ▸ Bool.eq_false_iff.2 hempty
  · cases h

theorem id_of_decode {now : Int} {json : Json} {p : DataPoint} (h : decode now json = .accepted p) :
    p.id.isEmpty = false := by
  cases json with
  | record fields =>
    have decodes : p.Decodes now fields := decodes_of_decodeFields h
    obtain ⟨_, -, hid⟩ := exists_of_required decodes.id
    exact isEmpty_of_nonEmptyText hid
  | _ => cases h

theorem storable_of_decode {now : Int} {json : Json} {p : DataPoint} (hnow : (Json.int now).Readable)
    (readable : json.Readable) (h : decode now json = .accepted p) : p.Storable := by
  have hid := id_of_decode h
  cases json with
  | record fields =>
    have decodes : p.Decodes now fields := decodes_of_decodeFields h
    exact
      { id := hid
        value := of_optional_readable decodes.value readable trivial fun _ _ hread h =>
          Decoded.accepted.inj h ▸ hread
        timestamp := of_integer_readable decodes.timestamp readable hnow }
  | _ => cases h

theorem Storable.readable {p : DataPoint} (h : p.Storable) : (p.toJson .brief).Readable := by
  have hmembers : (Json.record
      [("id", .str p.id), ("name", .str p.name), ("type", .str p.kind.name), ("value", p.value),
        ("source", .str p.source), ("timestamp", .int p.timestamp)]).Readable :=
    ⟨by simp [Fields.Distinct], trivial, trivial, trivial, h.value, trivial, h.timestamp, trivial⟩
  exact Json.readable_exchanged _ (Json.readable_record_of_sublist hmembers (Json.fields_brief_sublist _))

end DataPoint

/-! ### Workflows -/

namespace Workflow

/-- What makes sure that a workflow can be written and read back. -/
structure Storable (w : Workflow) : Prop where
  steps : ∀ s ∈ w.steps, s.Storable
  triggers : ∀ t ∈ w.triggers, Rest Trigger.fieldNames t.extras
  dataPoints : ∀ p ∈ w.dataPoints, p.Storable
  createdAt : (Json.int w.createdAt).Readable
  updatedAt : (Json.int w.updatedAt).Readable
  rest : Rest fieldNames w.extras

theorem names_members (w : Workflow) : w.members.map Prod.fst = fieldNames.filterMap List.head? := rfl

theorem distinct_members (w : Workflow) : w.members.Distinct := by
  simp [Fields.Distinct, members]

/-- A workflow that is accepted from a value that can be read is storable. -/
theorem storable_of_decode {now : Int} {json : Json} {w : Workflow} (hnow : (Json.int now).Readable)
    (readable : json.Readable) (h : decode now json = .accepted w) : w.Storable := by
  cases json with
  | record fields =>
    have decodes : w.Decodes now fields := decodes_of_decodeFields h
    exact
      { steps := of_list_readable decodes.steps readable fun _ _ => Step.storable_of_decode
        triggers := of_list_readable decodes.triggers readable fun _ _ => Trigger.rest_of_decode
        dataPoints := of_list_readable decodes.dataPoints readable fun _ _ => DataPoint.storable_of_decode hnow
        createdAt := of_integer_readable decodes.createdAt readable hnow
        updatedAt := of_integer_readable decodes.updatedAt readable hnow
        rest := decodes.extras ▸ rest_extras readable fieldNames }
  | _ => cases h

/-- The record that is written for a storable workflow can be read back. -/
theorem Storable.readable {w : Workflow} (h : w.Storable) : (w.toJson .brief).Readable := by
  have hsteps : Json.ItemsReadable (w.steps.map (Step.toJson .brief)) :=
    Json.itemsReadable_iff.2 (List.forall_mem_map.2 fun s hs => (h.steps s hs).readable)
  have htriggers : Json.ItemsReadable (w.triggers.map (Trigger.toJson .brief)) :=
    Json.itemsReadable_iff.2 (List.forall_mem_map.2 fun t ht => Trigger.readable_toJson (h.triggers t ht))
  have hdataPoints : Json.ItemsReadable (w.dataPoints.map (DataPoint.toJson .brief)) :=
    Json.itemsReadable_iff.2 (List.forall_mem_map.2 fun p hp => (h.dataPoints p hp).readable)
  have hwebsites : (Json.ofOption Websites.toJson w.websites).Readable := by
    cases w.websites with
    | none => trivial
    | some websites => exact ⟨by simp [Fields.Distinct], trivial, trivial, trivial⟩
  have hmembers : (Json.record w.members).Readable :=
    ⟨w.distinct_members, Json.readable_ofText? _, trivial, trivial, hsteps, htriggers, hdataPoints, trivial,
      h.createdAt, h.updatedAt, trivial, hwebsites, trivial⟩
  rw [toJson_brief]
  exact readable_briefFields w.names_members hmembers h.rest

/-- What is given the time of saving, which can be read back, stays storable. -/
theorem Storable.stamped {w : Workflow} (h : w.Storable) {now : Int} (hnow : (Json.int now).Readable) :
    (w.stamped now).Storable :=
  { h with updatedAt := hnow }

end Workflow

end Runbook
