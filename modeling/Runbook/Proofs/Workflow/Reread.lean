import Runbook.Proofs.Workflow.Storable

/-!
# Workflows that are written and read again

A workflow that is written in brief and decoded again has lost the members without a meaning that are null, and its
numbers that are not finite are null (`Workflow.settled`). That is so if it is `Steady`: a member without a meaning may
have the second name of a field, and is taken for that field where the field has no value.

* `Workflow.decode_toJson` — a steady workflow is decoded again as it is when it is settled.
* `Workflow.decode_toJson_eq_self_iff` — a workflow is decoded again as it was exactly if it is `Lossless`.
* `Workflow.steady_of_decode` — what was decoded again is steady, whatever was written.
-/

namespace Runbook

open Decode

theorem map_eq_self_iff {α : Type} {f : α → α} {as : List α} : as.map f = as ↔ ∀ a ∈ as, f a = a := by
  induction as with
  | nil => simp
  | cons a as ih => simp [ih]

/-! ## Triggers -/

namespace Trigger

/-- A trigger as it is when it was written and read. -/
def settled (t : Trigger) : Trigger :=
  { t with extras := Json.settledFields t.extras }

theorem settled_eq_self_iff (t : Trigger) : t.settled = t ↔ Json.Lasting t.extras := by
  rw [← Json.settledFields_eq_self_iff]
  cases t
  simp [settled]

theorem spare_of_decode {json : Json} {t : Trigger} (distinct : json.Distinct) (h : decode json = .accepted t) :
    Spare fieldNames t.extras := by
  cases json with
  | record fields => exact extras_of_decodeFields h ▸ spare_extras distinct fieldNames
  | _ => cases h

theorem brief (t : Trigger) (spare : Spare fieldNames t.extras) : Brief fieldNames t.members t.extras := by
  apply brief_of_steady t.names_members t.distinct_members spare
  intro name others hnames _ other hother
  -- no field of a trigger has a second name
  have hothers : others = [] := by
    simp only [fieldNames, List.mem_cons, List.cons.injEq, List.not_mem_nil, or_false] at hnames
    rcases hnames with ⟨-, h⟩ | ⟨-, h⟩ | ⟨-, h⟩ | ⟨-, h⟩ | ⟨-, h⟩ <;> exact h
  exact absurd (hothers ▸ hother) List.not_mem_nil

theorem decode_toJson {t : Trigger} (spare : Spare fieldNames t.extras) :
    decode (t.toJson .brief) = .accepted t.settled := by
  have h := t.brief spare
  have hkind : required ["type"] (oneOf kinds .notLiteral) (briefFields t.members t.extras) = .accepted t.kind := by
    refine h.required_eq (by decide) rfl rfl ?_
    cases t.kind <;> rfl
  have hpattern : optional ["pattern"] (nullable text) none (briefFields t.members t.extras) = .accepted t.pattern :=
    h.text_eq (by decide) rfl
  have hselector : optional ["selector"] (nullable text) none (briefFields t.members t.extras) = .accepted t.selector :=
    h.text_eq (by decide) rfl
  have hschedule : optional ["schedule"] (nullable text) none (briefFields t.members t.extras) = .accepted t.schedule :=
    h.text_eq (by decide) rfl
  have hshortcut : optional ["shortcut"] (nullable text) none (briefFields t.members t.extras) = .accepted t.shortcut :=
    h.text_eq (by decide) rfl
  rw [toJson_brief]
  show decodeFields _ = _
  rw [decodeFields, hkind, hpattern, hselector, hschedule, hshortcut, h.extras_eq]
  rfl

end Trigger

/-! ## Steps -/

namespace Step

/-- A step as it is when it was written and read. -/
def settled (s : Step) : Step :=
  { s with input := Json.exchangedFields s.input, extras := Json.settledFields s.extras }

/-- Does no member without a meaning stand for a field that has no value? -/
structure Steady (s : Step) : Prop where
  taskId : s.taskId = none → s.extras.present? "task_id" = none
  handlerId : s.handlerId = none → s.extras.present? "handler_id" = none

instance (s : Step) : Decidable s.Steady :=
  decidable_of_iff
    ((s.taskId = none → s.extras.present? "task_id" = none) ∧
      (s.handlerId = none → s.extras.present? "handler_id" = none))
    ⟨fun h => ⟨h.1, h.2⟩, fun h => ⟨h.1, h.2⟩⟩

/-- Does a step lose nothing when it is written and read? -/
structure Lossless (s : Step) : Prop where
  steady : s.Steady
  input : Json.fieldsFinite s.input = true
  extras : Json.Lasting s.extras

instance (s : Step) : Decidable s.Lossless :=
  decidable_of_iff (s.Steady ∧ Json.fieldsFinite s.input = true ∧ Json.Lasting s.extras)
    ⟨fun h => ⟨h.1, h.2.1, h.2.2⟩, fun h => ⟨h.steady, h.input, h.extras⟩⟩

theorem settled_eq_self_iff (s : Step) :
    s.settled = s ↔ Json.fieldsFinite s.input = true ∧ Json.Lasting s.extras := by
  rw [← Json.settledFields_eq_self_iff, ← Json.exchangedFields_eq_self_iff]
  cases s
  simp [settled]

theorem brief {s : Step} (spare : Spare fieldNames s.extras) (steady : s.Steady) :
    Brief fieldNames s.members s.extras := by
  apply brief_of_steady s.names_members s.distinct_members spare
  intro name others hnames hnone other hother
  simp only [fieldNames, List.mem_cons, List.cons.injEq, List.not_mem_nil, or_false] at hnames
  rcases hnames with ⟨-, rfl⟩ | ⟨rfl, rfl⟩ | ⟨rfl, rfl⟩ | ⟨rfl, rfl⟩ | ⟨-, rfl⟩ | ⟨-, rfl⟩ | ⟨-, rfl⟩ | ⟨-, rfl⟩
  case inr.inl => cases hnone
  case inr.inr.inl =>
    obtain rfl := List.mem_singleton.1 hother
    have hget : s.members.get? "taskId" = some (Json.ofOption .str s.taskId) := ofText?_eq_ofOption s.taskId ▸ rfl
    exact ⟨by simp [members], steady.taskId (eq_none_of_present? hget (fun _ => rfl) hnone)⟩
  case inr.inr.inr.inl =>
    obtain rfl := List.mem_singleton.1 hother
    have hget : s.members.get? "handlerId" = some (Json.ofOption .str s.handlerId) :=
      ofText?_eq_ofOption s.handlerId ▸ rfl
    exact ⟨by simp [members], steady.handlerId (eq_none_of_present? hget (fun _ => rfl) hnone)⟩
  all_goals cases hother

/-- What a step has to be like to be decoded again, whatever numbers are in it. -/
structure Coherent (s : Step) : Prop where
  delay : ∀ delay, s.delay = some delay → 0.0 ≤ delay
  retry : ∀ retry, s.retry = some retry → retry.Allowed
  spare : Spare fieldNames s.extras

theorem coherent_of_decode {json : Json} {s : Step} (distinct : json.Distinct) (h : decode json = .accepted s) :
    s.Coherent := by
  have decent := decent_of_decode h
  cases json with
  | record fields =>
    have decodes : s.Decodes fields := decodes_of_decodeFields h
    exact ⟨decent.delay, decent.retry, decodes.extras ▸ spare_extras distinct fieldNames⟩
  | _ => cases h

theorem Storable.coherent {s : Step} (h : s.Storable) : s.Coherent :=
  ⟨h.delay, fun retry hretry => (h.retry retry hretry).allowed, h.rest.spare⟩

/-- A steady step is decoded again as it is when it is settled. -/
theorem decode_toJson {s : Step} (h : s.Coherent) (steady : s.Steady) :
    decode (s.toJson .brief) = .accepted s.settled := by
  have hbrief := brief h.spare steady
  have hid : required ["id"] text (briefFields s.members s.extras) = .accepted s.id :=
    hbrief.required_eq (by decide) rfl rfl rfl
  have hkind : required ["type", "kind"] (oneOf kinds .notMember) (briefFields s.members s.extras) =
      .accepted s.kind := by
    refine hbrief.required_eq (by decide) rfl rfl ?_
    cases s.kind <;> rfl
  have htaskId : optional ["taskId", "task_id"] (nullable text) none (briefFields s.members s.extras) =
      .accepted s.taskId :=
    hbrief.text_eq (by decide) rfl
  have hhandlerId : optional ["handlerId", "handler_id"] (nullable text) none (briefFields s.members s.extras) =
      .accepted s.handlerId :=
    hbrief.text_eq (by decide) rfl
  have hinput : optional ["input"] map [] (briefFields s.members s.extras) =
      .accepted (Json.exchangedFields s.input) :=
    hbrief.optional_eq (by decide) rfl rfl rfl
  have hcondition : optional ["condition"] (nullable text) none (briefFields s.members s.extras) =
      .accepted s.condition :=
    hbrief.text_eq (by decide) rfl
  have hdelay : optional ["delay"] (nullable (numberFrom 0.0)) none (briefFields s.members s.extras) =
      .accepted s.delay :=
    hbrief.nullable_eq (by decide) rfl fun delay hdelay =>
      ⟨rfl, numberFrom_eq_accepted.2 ⟨rfl, h.delay delay hdelay⟩⟩
  have hretry : optional ["retry"] (nullable Retry.decode) none (briefFields s.members s.extras) =
      .accepted s.retry :=
    hbrief.nullable_eq (by decide) rfl fun retry hretry =>
      ⟨rfl, Retry.decode_toJson (h.retry retry hretry)⟩
  rw [toJson_brief]
  show decodeFields _ = _
  rw [decodeFields, hid, hkind, htaskId, hhandlerId, hinput, hcondition, hdelay, hretry, hbrief.extras_eq]
  rfl

/-- What is decoded is steady if neither target was null under its first name. -/
theorem steady_of_decodeFields {fields : Fields} {s : Step} (h : decodeFields fields = .accepted s)
    (htask : fields.get? "taskId" ≠ some .null) (hhandler : fields.get? "handlerId" ≠ some .null) : s.Steady := by
  have decodes := decodes_of_decodeFields h
  constructor
  · intro hnone
    rw [decodes.extras]
    exact present?_extras_of_none (hnone ▸ decodes.taskId) htask (by decide)
  · intro hnone
    rw [decodes.extras]
    exact present?_extras_of_none (hnone ▸ decodes.handlerId) hhandler (by decide)

/-- A step that was decoded again is steady. -/
theorem steady_of_decode {s s' : Step} (h : s.Coherent) (hdecode : decode (s.toJson .brief) = .accepted s') :
    s'.Steady := by
  have hget : ∀ name ∈ fieldNames.filterMap List.head?,
      (briefFields s.members s.extras).get? name ≠ some .null := by
    intro name hname
    rw [get?_briefFields s.distinct_members (h.spare.free name hname)]
    exact present?_ne_null _ _
  rw [toJson_brief] at hdecode
  exact steady_of_decodeFields hdecode (hget _ (by decide)) (hget _ (by decide))

end Step

/-! ## Data points -/

namespace DataPoint

/-- A data point as it is when it was written and read. -/
def settled (p : DataPoint) : DataPoint :=
  { p with value := p.value.exchanged }

theorem settled_eq_self_iff (p : DataPoint) : p.settled = p ↔ p.value.allFinite = true := by
  rw [← Json.exchanged_eq_self_iff]
  cases p
  simp [settled]

/-- A data point that has an id is decoded again as it is when it is settled, whenever that is. -/
theorem decode_toJson {p : DataPoint} (identified : p.id.isEmpty = false) (now : Int) :
    decode now (p.toJson .brief) = .accepted p.settled := by
  let members : Fields :=
    [("id", .str p.id), ("name", .str p.name), ("type", .str p.kind.name), ("value", p.value),
      ("source", .str p.source), ("timestamp", .int p.timestamp)]
  have distinct : members.Distinct := by simp [Fields.Distinct, members]
  have hget : ∀ name, (Json.settledFields members).get? name = (members.present? name).map Json.exchanged := by
    intro name
    rw [Json.settledFields, Json.get?_exchangedFields, Json.get?_fields_brief distinct]
  have hid : required ["id"] nonEmptyText (Json.settledFields members) = .accepted p.id := by
    refine (required_of_get? (hget "id")).2 ?_
    show (if p.id.isEmpty then _ else _) = _
    rw [identified]
    rfl
  have hname : optional ["name"] text "" (Json.settledFields members) = .accepted p.name :=
    (optional_of_get? (hget "name")).2 rfl
  have hkind : optional ["type"] (oneOf kinds .notMember) .context (Json.settledFields members) = .accepted p.kind := by
    refine (optional_of_get? (hget "type")).2 ?_
    cases p.kind <;> rfl
  have hvalue : optional ["value"] anything .null (Json.settledFields members) = .accepted p.value.exchanged := by
    cases hnull : p.value.isNull with
    | false =>
      have hpresent : members.present? "value" = some p.value := present?_of_get? rfl hnull
      exact (optional_of_get? ((hget "value").trans (by rw [hpresent]; rfl))).2 rfl
    | true =>
      have hpresent : members.present? "value" = none := by
        show Option.filter _ (some p.value) = none
        rw [Option.filter_some, hnull]
        rfl
      have hfind : find ["value"] (Json.settledFields members) = none := by
        simp [find, hget, hpresent]
      have hvalue : p.value = .null := by
        cases hp : p.value <;> simp_all [Json.isNull]
      rw [Decode.optional, hfind, hvalue]
      rfl
  have hsource : optional ["source"] text "" (Json.settledFields members) = .accepted p.source :=
    (optional_of_get? (hget "source")).2 rfl
  have htimestamp : optional ["timestamp"] integer now (Json.settledFields members) = .accepted p.timestamp :=
    (optional_of_get? (hget "timestamp")).2 rfl
  show decodeFields now (Json.settledFields members) = _
  rw [decodeFields, hid, hname, hkind, hvalue, hsource, htimestamp]
  rfl

end DataPoint

/-! ## Workflows -/

namespace Workflow

/-- A workflow as it is when it was written and read. -/
def settled (w : Workflow) : Workflow :=
  { w with
    steps := w.steps.map Step.settled
    triggers := w.triggers.map Trigger.settled
    dataPoints := w.dataPoints.map DataPoint.settled
    extras := Json.settledFields w.extras }

/-- Does no member without a meaning stand for a field that has no value? -/
structure Steady (w : Workflow) : Prop where
  steps : ∀ s ∈ w.steps, s.Steady
  websites : w.websites = none → w.extras.present? "website_config" = none

/-- Does a workflow lose nothing when it is written and read? -/
structure Lossless (w : Workflow) : Prop where
  steady : w.Steady
  steps : ∀ s ∈ w.steps, s.Lossless
  triggers : ∀ t ∈ w.triggers, Json.Lasting t.extras
  dataPoints : ∀ p ∈ w.dataPoints, p.value.allFinite = true
  extras : Json.Lasting w.extras

instance (w : Workflow) : Decidable w.Steady :=
  decidable_of_iff
    ((∀ s ∈ w.steps, s.Steady) ∧ (w.websites = none → w.extras.present? "website_config" = none))
    ⟨fun h => ⟨h.1, h.2⟩, fun h => ⟨h.1, h.2⟩⟩

instance (w : Workflow) : Decidable w.Lossless :=
  decidable_of_iff
    (w.Steady ∧ (∀ s ∈ w.steps, s.Lossless) ∧ (∀ t ∈ w.triggers, Json.Lasting t.extras) ∧
      (∀ p ∈ w.dataPoints, p.value.allFinite = true) ∧ Json.Lasting w.extras)
    ⟨fun h => ⟨h.1, h.2.1, h.2.2.1, h.2.2.2.1, h.2.2.2.2⟩,
      fun h => ⟨h.steady, h.steps, h.triggers, h.dataPoints, h.extras⟩⟩

variable {w w' : Workflow}

/-- A workflow loses nothing if it is steady and is as it is when it is settled, and only then. -/
theorem lossless_iff (w : Workflow) : w.Lossless ↔ w.Steady ∧ w.settled = w := by
  have hsettled : w.settled = w ↔ w.steps.map Step.settled = w.steps ∧ w.triggers.map Trigger.settled = w.triggers ∧
      w.dataPoints.map DataPoint.settled = w.dataPoints ∧ Json.settledFields w.extras = w.extras := by
    cases w
    simp [settled]
  rw [hsettled, map_eq_self_iff, map_eq_self_iff, map_eq_self_iff, Json.settledFields_eq_self_iff]
  simp only [Step.settled_eq_self_iff, Trigger.settled_eq_self_iff, DataPoint.settled_eq_self_iff]
  constructor
  · intro h
    exact ⟨h.steady, fun s hs => ⟨(h.steps s hs).input, (h.steps s hs).extras⟩, h.triggers, h.dataPoints, h.extras⟩
  · rintro ⟨steady, hsteps, htriggers, hdataPoints, hextras⟩
    exact ⟨steady, fun s hs => ⟨steady.steps s hs, (hsteps s hs).1, (hsteps s hs).2⟩, htriggers, hdataPoints, hextras⟩

theorem brief (spare : Spare fieldNames w.extras) (steady : w.Steady) : Brief fieldNames w.members w.extras := by
  apply brief_of_steady w.names_members w.distinct_members spare
  intro name others hnames hnone other hother
  simp only [fieldNames, List.mem_cons, List.cons.injEq, List.not_mem_nil, or_false] at hnames
  rcases hnames with ⟨-, rfl⟩ | ⟨-, rfl⟩ | ⟨-, rfl⟩ | ⟨-, rfl⟩ | ⟨-, rfl⟩ | ⟨rfl, -⟩ | ⟨-, rfl⟩ | ⟨rfl, -⟩ |
    ⟨rfl, -⟩ | ⟨-, rfl⟩ | ⟨rfl, rfl⟩
  case inr.inr.inr.inr.inr.inr.inr.inr.inr.inr =>
    obtain rfl := List.mem_singleton.1 hother
    exact ⟨by simp [members], steady.websites (eq_none_of_present? rfl (fun _ => rfl) hnone)⟩
  -- the other fields have no second name, or always a value
  all_goals first | exact absurd hother List.not_mem_nil | cases hnone

/-- A field of a workflow that is written with a value is found, whatever other members there are. -/
theorem get?_written (spare : Spare fieldNames w.extras) {name : String} {json : Json}
    (hname : name ∈ fieldNames.filterMap List.head?) (hget : w.members.get? name = some json)
    (hnull : json.isNull = false) : (briefFields w.members w.extras).get? name = some json := by
  rw [get?_briefFields w.distinct_members (spare.free name hname)]
  exact present?_of_get? hget hnull

/-- What a workflow has to be like to be decoded again, whatever numbers are in it. -/
structure Coherent (w : Workflow) : Prop where
  steps : ∀ s ∈ w.steps, s.Coherent
  triggers : ∀ t ∈ w.triggers, Spare Trigger.fieldNames t.extras
  dataPoints : ∀ p ∈ w.dataPoints, p.id.isEmpty = false
  spare : Spare fieldNames w.extras

/-- Have the members of a record, and those of a step and of a trigger in it, different names? -/
structure DistinctNames (json : Json) : Prop where
  own : json.Distinct
  steps : ∀ steps, json.get? "steps" = some (.list steps) → ∀ step ∈ steps, step.Distinct
  triggers : ∀ triggers, json.get? "triggers" = some (.list triggers) → ∀ trigger ∈ triggers, trigger.Distinct

/-- What is accepted from a record without repeated names is coherent. -/
theorem coherent_of_decode {now : Int} {json : Json} (distinct : DistinctNames json)
    (h : decode now json = .accepted w) : w.Coherent := by
  cases json with
  | record fields =>
    have decodes : w.Decodes now fields := decodes_of_decodeFields h
    constructor
    case steps =>
      intro s hs
      obtain ⟨_, hname, steps, hget, step, hstep, hdecode⟩ := exists_item_of_list decodes.steps s hs
      obtain rfl := List.mem_singleton.1 hname
      exact Step.coherent_of_decode (distinct.steps steps hget step hstep) hdecode
    case triggers =>
      intro t ht
      obtain ⟨_, hname, triggers, hget, trigger, htrigger, hdecode⟩ := exists_item_of_list decodes.triggers t ht
      obtain rfl := List.mem_singleton.1 hname
      exact Trigger.spare_of_decode (distinct.triggers triggers hget trigger htrigger) hdecode
    case dataPoints =>
      intro p hp
      obtain ⟨_, -, _, -, _, -, hdecode⟩ := exists_item_of_list decodes.dataPoints p hp
      exact DataPoint.id_of_decode hdecode
    case spare => exact decodes.extras ▸ spare_extras distinct.own fieldNames
  | _ => cases h

/-- The record that is written for a coherent workflow has no repeated names. -/
theorem Coherent.distinctNames (h : w.Coherent) : DistinctNames (w.toJson .brief) where
  own := distinct_briefFields w.names_members w.distinct_members h.spare
  steps steps hget := by
    rw [toJson_brief, Json.get?, get?_written h.spare (by decide) rfl rfl] at hget
    cases hget
    exact List.forall_mem_map.2 fun s hs =>
      distinct_briefFields s.names_members s.distinct_members (h.steps s hs).spare
  triggers triggers hget := by
    rw [toJson_brief, Json.get?, get?_written h.spare (by decide) rfl rfl] at hget
    cases hget
    refine List.forall_mem_map.2 fun t ht => ?_
    rw [Trigger.toJson_brief]
    exact distinct_briefFields t.names_members t.distinct_members (h.triggers t ht)

theorem Storable.coherent (h : w.Storable) : w.Coherent where
  steps s hs := (h.steps s hs).coherent
  triggers t ht := (h.triggers t ht).spare
  dataPoints p hp := (h.dataPoints p hp).id
  spare := h.rest.spare

theorem decode_steps (h : w.Coherent) (steady : w.Steady) :
    list Step.decode (.list (w.steps.map (Step.toJson .brief))) = .accepted (w.steps.map Step.settled) :=
  items_map (fun s hs => Step.decode_toJson (h.steps s hs) (steady.steps s hs)) 0

theorem decode_triggers (h : w.Coherent) :
    list Trigger.decode (.list (w.triggers.map (Trigger.toJson .brief))) =
      .accepted (w.triggers.map Trigger.settled) :=
  items_map (fun t ht => Trigger.decode_toJson (h.triggers t ht)) 0

theorem decode_dataPoints (h : w.Coherent) (now : Int) :
    list (DataPoint.decode now) (.list (w.dataPoints.map (DataPoint.toJson .brief))) =
      .accepted (w.dataPoints.map DataPoint.settled) :=
  items_map (fun p hp => DataPoint.decode_toJson (h.dataPoints p hp) now) 0

theorem decode_websites (websites : Websites) : Websites.decode websites.toJson = .accepted websites := by
  have hscope : oneOf Websites.scopes .notLiteral (.str websites.scope.name) = .accepted websites.scope := by
    cases websites.scope <;> rfl
  have htype : optional ["type"] (oneOf Websites.scopes .notLiteral) .all
      [("type", .str websites.scope.name), ("patterns", .str websites.patterns)] = .accepted websites.scope :=
    (optional_of_get? rfl).2 hscope
  show Websites.decodeFields _ = _
  rw [Websites.decodeFields, htype]
  rfl

/-- A steady workflow is decoded again as it is when it is settled. -/
theorem Coherent.decode_toJson (h : w.Coherent) (steady : w.Steady) (now : Int) :
    decode now (w.toJson .brief) = .accepted w.settled := by
  have hbrief := brief h.spare steady
  have hid : optional ["id"] (nullable text) none (briefFields w.members w.extras) = .accepted w.id :=
    hbrief.text_eq (by decide) rfl
  have hname : optional ["name"] text "" (briefFields w.members w.extras) = .accepted w.name :=
    hbrief.optional_eq (by decide) rfl rfl rfl
  have hdescription : optional ["description"] text "" (briefFields w.members w.extras) = .accepted w.description :=
    hbrief.optional_eq (by decide) rfl rfl rfl
  have hsteps : optional ["steps"] (list Step.decode) [] (briefFields w.members w.extras) =
      .accepted (w.steps.map Step.settled) :=
    hbrief.optional_eq (by decide) rfl rfl (decode_steps h steady)
  have htriggers : optional ["triggers"] (list Trigger.decode) [] (briefFields w.members w.extras) =
      .accepted (w.triggers.map Trigger.settled) :=
    hbrief.optional_eq (by decide) rfl rfl (decode_triggers h)
  have hdataPoints : optional ["dataPoints", "data_points"] (list (DataPoint.decode now)) []
      (briefFields w.members w.extras) = .accepted (w.dataPoints.map DataPoint.settled) :=
    hbrief.optional_eq (by decide) rfl rfl (decode_dataPoints h now)
  have henabled : optional ["enabled"] truth true (briefFields w.members w.extras) = .accepted w.enabled :=
    hbrief.optional_eq (by decide) rfl rfl rfl
  have hcreatedAt : optional ["createdAt", "created_at"] integer now (briefFields w.members w.extras) =
      .accepted w.createdAt :=
    hbrief.optional_eq (by decide) rfl rfl rfl
  have hupdatedAt : optional ["updatedAt", "updated_at"] integer now (briefFields w.members w.extras) =
      .accepted w.updatedAt :=
    hbrief.optional_eq (by decide) rfl rfl rfl
  have hversion : optional ["version"] text "1.0.0" (briefFields w.members w.extras) = .accepted w.version :=
    hbrief.optional_eq (by decide) rfl rfl rfl
  have hwebsites : optional ["websiteConfig", "website_config"] (nullable Websites.decode) none
      (briefFields w.members w.extras) = .accepted w.websites :=
    hbrief.nullable_eq (by decide) rfl fun websites _ => ⟨rfl, decode_websites websites⟩
  rw [toJson_brief]
  show decodeFields now _ = _
  rw [decodeFields, hid, hname, hdescription, hsteps, htriggers, hdataPoints, henabled, hcreatedAt, hupdatedAt,
    hversion, hwebsites, hbrief.extras_eq]
  rfl

theorem decode_toJson (h : w.Storable) (steady : w.Steady) (now : Int) :
    decode now (w.toJson .brief) = .accepted w.settled :=
  h.coherent.decode_toJson steady now

/-- A workflow that was decoded again is steady, whatever was written. -/
theorem steady_of_decode (h : w.Coherent) {now : Int} (hdecode : decode now (w.toJson .brief) = .accepted w') :
    w'.Steady := by
  have hfields : decodeFields now (briefFields w.members w.extras) = .accepted w' := hdecode
  have decodes := decodes_of_decodeFields hfields
  have hsteps := (optional_of_get? (get?_written h.spare (by decide) rfl rfl)).1 decodes.steps
  constructor
  · intro s' hs'
    obtain ⟨json, hjson, hstep⟩ := exists_of_forall₂ (forall₂_of_items hsteps) s' hs'
    obtain ⟨s, hs, rfl⟩ := List.mem_map.1 hjson
    exact Step.steady_of_decode (h.steps s hs) hstep
  · intro hnone
    have hnull : (briefFields w.members w.extras).get? "websiteConfig" ≠ some .null := by
      rw [get?_briefFields w.distinct_members (h.spare.free _ (by decide))]
      exact present?_ne_null _ _
    have hwebsites := decodes.websites
    rw [hnone] at hwebsites
    rw [decodes.extras]
    exact present?_extras_of_none hwebsites hnull (by decide)

/-- A workflow is decoded again as it was if it loses nothing, and only then. -/
theorem decode_toJson_eq_self_iff (h : w.Storable) (now : Int) :
    decode now (w.toJson .brief) = .accepted w ↔ w.Lossless := by
  rw [lossless_iff]
  constructor
  · intro hdecode
    have steady := steady_of_decode h.coherent hdecode
    rw [decode_toJson h steady] at hdecode
    exact ⟨steady, Decoded.accepted.inj hdecode⟩
  · rintro ⟨steady, hsettled⟩
    rw [decode_toJson h steady, hsettled]

/-- The id of a workflow is decoded as it was written, whatever becomes of the rest. -/
theorem id_of_decode (h : w.Storable) {now : Int} (hdecode : decode now (w.toJson .brief) = .accepted w') :
    w'.id = w.id := by
  have hfields : decodeFields now (briefFields w.members w.extras) = .accepted w' := hdecode
  have hid' := (decodes_of_decodeFields hfields).id
  cases hid : w.id with
  | none =>
    have hget : (briefFields w.members w.extras).get? "id" = none := by
      rw [get?_briefFields w.distinct_members (h.rest.free _ (by decide)), members, hid]
      rfl
    have hfind : find ["id"] (briefFields w.members w.extras) = none := by simp [find, hget]
    rw [Decode.optional, hfind] at hid'
    exact (Decoded.accepted.inj hid').symm
  | some id =>
    have hget : (briefFields w.members w.extras).get? "id" = some (.str id) :=
      get?_written h.rest.spare (by decide) (by rw [members, hid]; rfl) rfl
    have haccepted : nullable text (.str id) = .accepted w'.id := (optional_of_get? hget).1 hid'
    exact (Decoded.accepted.inj haccepted).symm

/-- When a workflow is read again does not matter. -/
theorem decode_toJson_now (h : w.Storable) (now now' : Int) :
    decode now (w.toJson .brief) = decode now' (w.toJson .brief) := by
  have hdataPoints : ∀ now, optional ["dataPoints", "data_points"] (list (DataPoint.decode now)) []
      (briefFields w.members w.extras) = .accepted (w.dataPoints.map DataPoint.settled) := by
    intro now
    exact (optional_of_get? (get?_written h.rest.spare (by decide) rfl rfl)).2 (decode_dataPoints h.coherent now)
  have hcreatedAt : ∀ now, optional ["createdAt", "created_at"] integer now (briefFields w.members w.extras) =
      .accepted w.createdAt := by
    intro now
    exact (optional_of_get? (get?_written h.rest.spare (by decide) rfl rfl)).2 rfl
  have hupdatedAt : ∀ now, optional ["updatedAt", "updated_at"] integer now (briefFields w.members w.extras) =
      .accepted w.updatedAt := by
    intro now
    exact (optional_of_get? (get?_written h.rest.spare (by decide) rfl rfl)).2 rfl
  rw [toJson_brief]
  show decodeFields now _ = decodeFields now' _
  rw [decodeFields, decodeFields, hdataPoints now, hdataPoints now', hcreatedAt now, hcreatedAt now', hupdatedAt now,
    hupdatedAt now']

end Workflow

end Runbook
