import Runbook.Proofs.Input.Resolved
import Runbook.Proofs.Json.Fields
import Runbook.Proofs.Reference.Legacy

/-!
# What migration does to references of the older kind

A migration puts a token in the place of each reference of the older kind and does not look at what it has
written. So one is left where the id in a record was a reference itself: the token that is put in its place is a
text, and makes the record around it a reference that was none before (`Nests`).

* `contains_migrateValue_iff` — nothing else is left.
* `migrateValue_eq_self_iff` — a migration changes exactly the values that have a reference of the older kind.
* `migrate_exact` — the same of workflows, in JSON and decoded.
* `resolve_migrateValue` — a value resolves to the same before and after, if no reference is left.
-/

namespace Runbook

/-- No token is the name by which references of the older kind are told. -/
theorem Token.write_ne_kind (t : Token) : t.write ≠ "data_point" := by
  intro h
  have hchars := congrArg String.toList h
  rw [write, String.toList_ofList, chars_eq] at hchars
  exact absurd (List.cons.inj hchars).1 (by decide)

namespace Legacy

variable {value : Json} {fields : Fields} {items steps : List Json}

/-! ## Values -/

/-- A record that becomes a reference of the older kind, because its id is one, or a value that has such a
record, outside of references of the older kind. -/
inductive Nests : Json → Prop where
  | here {fields inner : Fields} (kind : fields.get? "type" = some (.str "data_point"))
      (id : fields.get? "dataPointId" = some (.record inner))
      (legacy : (Fields.legacyToken? inner).isSome = true) : Nests (.record fields)
  | member {fields : Fields} {field : String × Json} (current : Fields.legacyToken? fields = none)
      (mem : field ∈ fields) (nests : Nests field.2) : Nests (.record fields)
  | item {items : List Json} {value : Json} (mem : value ∈ items) (nests : Nests value) :
      Nests (.list items)

/-- Has the record an id that is itself a reference of the older kind? -/
def IdNests (fields : Fields) : Prop :=
  fields.get? "type" = some (.str "data_point") ∧
    ∃ inner, fields.get? "dataPointId" = some (.record inner) ∧
      (Fields.legacyToken? inner).isSome = true

theorem nests_list_iff : Nests (.list items) ↔ ∃ value ∈ items, Nests value := by
  constructor
  · intro h
    cases h with
    | item mem nests => exact ⟨_, mem, nests⟩
  · rintro ⟨value, mem, nests⟩
    exact .item mem nests

theorem nests_record_iff (current : Fields.legacyToken? fields = none) :
    Nests (.record fields) ↔ IdNests fields ∨ ∃ field ∈ fields, Nests field.2 := by
  constructor
  · intro h
    cases h with
    | here kind id legacy => exact .inl ⟨kind, _, id, legacy⟩
    | member _ mem nests => exact .inr ⟨_, mem, nests⟩
  · rintro (⟨kind, inner, id, legacy⟩ | ⟨field, mem, nests⟩)
    · exact .here kind id legacy
    · exact .member current mem nests

/-- A reference of the older kind is replaced as a whole, so nothing in it is left. -/
theorem not_nests_of_legacy {t : Token} (h : Fields.legacyToken? fields = some t) :
    ¬ Nests (.record fields) := by
  intro hnests
  cases hnests with
  | here kind id legacy =>
    obtain ⟨-, text, htext⟩ := Fields.isSome_legacyToken?.1 (Option.isSome_of_eq_some h)
    rw [id] at htext
    cases htext
  | member current => rw [h] at current; cases current

theorem migrateFields_eq_map (fields : Fields) :
    migrateFields fields = fields.map fun field => (field.1, migrateValue field.2) := by
  induction fields with
  | nil => rfl
  | cons field fields ih => exact congrArg (_ :: ·) ih

/-- What is a text after a migration was that text, or a reference of the older kind. -/
theorem migrateValue_eq_str_iff {text : String} : migrateValue value = .str text ↔
    value = .str text ∨
      ∃ fields t, value = .record fields ∧ Fields.legacyToken? fields = some t ∧ t.write = text := by
  cases value with
  | record fields => cases h : Fields.legacyToken? fields <;> simp [migrateValue, h]
  | _ => simp [migrateValue]

/-- A record that is no reference of the older kind becomes one if its id is one. -/
theorem isSome_legacyToken?_migrateFields (current : Fields.legacyToken? fields = none) :
    (Fields.legacyToken? (migrateFields fields)).isSome = true ↔ IdNests fields := by
  have hnot : ¬ (Fields.legacyToken? fields).isSome = true := by simp [current]
  rw [Fields.isSome_legacyToken?] at hnot ⊢
  simp only [migrateFields_eq_map, Fields.get?_map_snd, Option.map_eq_some_iff, migrateValue_eq_str_iff]
  constructor
  · rintro ⟨⟨kind, hkind, hname⟩, text, id, hid, htext⟩
    obtain rfl : kind = .str "data_point" := by
      rcases hname with hname | ⟨-, t, -, -, hwrite⟩
      · exact hname
      · exact absurd hwrite t.write_ne_kind
    rcases htext with rfl | ⟨inner, t, rfl, hlegacy, -⟩
    · exact absurd ⟨hkind, text, hid⟩ hnot
    · exact ⟨hkind, inner, hid, Option.isSome_of_eq_some hlegacy⟩
  · rintro ⟨hkind, inner, hid, hlegacy⟩
    obtain ⟨t, ht⟩ := Option.isSome_iff_exists.1 hlegacy
    exact ⟨⟨_, hkind, .inl rfl⟩, t.write, _, hid, .inr ⟨inner, t, rfl, ht, rfl⟩⟩

mutual

/-- What a migration leaves are the records whose ids were references. -/
theorem contains_migrateValue_iff : ∀ value : Json, contains (migrateValue value) = true ↔ Nests value
  | .null | .bool _ | .int _ | .float _ | .str _ => by
    constructor <;> intro h <;> cases h
  | .record fields => by
    rw [migrateValue]
    cases current : Fields.legacyToken? fields with
    | some t =>
      refine ⟨fun h => ?_, fun h => absurd h (not_nests_of_legacy current)⟩
      cases h
    | none =>
      simp only
      rw [contains, Bool.or_eq_true, isSome_legacyToken?_migrateFields current,
        fieldsContain_migrateFields_iff fields, nests_record_iff current]
  | .list items => by
    rw [migrateValue, contains, itemsContain_migrateItems_iff items, nests_list_iff]

theorem itemsContain_migrateItems_iff : ∀ items : List Json,
    itemsContain (migrateItems items) = true ↔ ∃ value ∈ items, Nests value
  | [] => by simp [migrateItems, itemsContain]
  | value :: rest => by
    rw [migrateItems, itemsContain, Bool.or_eq_true, contains_migrateValue_iff value,
      itemsContain_migrateItems_iff rest]
    simp

theorem fieldsContain_migrateFields_iff : ∀ fields : List (String × Json),
    fieldsContain (migrateFields fields) = true ↔ ∃ field ∈ fields, Nests field.2
  | [] => by simp [migrateFields, fieldsContain]
  | (key, value) :: rest => by
    rw [migrateFields, fieldsContain, Bool.or_eq_true, contains_migrateValue_iff value,
      fieldsContain_migrateFields_iff rest]
    simp

end

mutual

/-- A migration changes exactly the values that have a reference of the older kind. -/
theorem migrateValue_eq_self_iff : ∀ value : Json, migrateValue value = value ↔ contains value = false
  | .null | .bool _ | .int _ | .float _ | .str _ => by simp [migrateValue, contains]
  | .record fields => by
    rw [migrateValue, contains, Bool.or_eq_false_iff]
    cases current : Fields.legacyToken? fields with
    | some t => simp
    | none => simp [migrateFields_eq_self_iff fields]
  | .list items => by
    rw [migrateValue, contains, Json.list.injEq, migrateItems_eq_self_iff items]

theorem migrateItems_eq_self_iff : ∀ items : List Json,
    migrateItems items = items ↔ itemsContain items = false
  | [] => by simp [migrateItems, itemsContain]
  | value :: rest => by
    rw [migrateItems, itemsContain, Bool.or_eq_false_iff, List.cons.injEq,
      migrateValue_eq_self_iff value, migrateItems_eq_self_iff rest]

theorem migrateFields_eq_self_iff : ∀ fields : List (String × Json),
    migrateFields fields = fields ↔ fieldsContain fields = false
  | [] => by simp [migrateFields, fieldsContain]
  | (key, value) :: rest => by
    rw [migrateFields, fieldsContain, Bool.or_eq_false_iff, List.cons.injEq, Prod.mk.injEq,
      migrateValue_eq_self_iff value, migrateFields_eq_self_iff rest]
    simp

end

/-- A second migration finds what the first one has left. -/
theorem migrateValue_migrateValue_iff :
    migrateValue (migrateValue value) = migrateValue value ↔ ¬ Nests value := by
  rw [migrateValue_eq_self_iff, ← Bool.not_eq_true, contains_migrateValue_iff]

/-! ## Workflows -/

/-- The inputs of the steps of a workflow. -/
def inputs (workflow : Json) : List Json :=
  match workflow.get? "steps" with
  | some (.list steps) => steps.filterMap (Json.get? "input")
  | _ => []

theorem inputs_of_listed (listed : fields.get? "steps" = some (.list steps)) :
    inputs (.record fields) = steps.filterMap (Json.get? "input") := by
  rw [inputs, Json.get?, listed]

theorem migrate_of_listed (listed : fields.get? "steps" = some (.list steps)) :
    migrate (.record fields) = .record (fields.set "steps" (.list (steps.map migrateStep))) := by
  rw [migrate, listed]

/-- A workflow without a list of steps is no object of a migration. -/
theorem listed_or_idle (workflow : Json) :
    (∃ fields steps, workflow = .record fields ∧ Fields.get? "steps" fields = some (.list steps)) ∨
      (inputs workflow = [] ∧ migrate workflow = workflow) := by
  cases workflow with
  | record fields =>
    cases h : Fields.get? "steps" fields with
    | none => exact .inr ⟨by simp [inputs, Json.get?, h], by simp [migrate, h]⟩
    | some value =>
      cases value with
      | list steps => exact .inl ⟨fields, steps, rfl, h⟩
      | _ => exact .inr ⟨by simp [inputs, Json.get?, h], by simp [migrate, h]⟩
  | _ => exact .inr ⟨rfl, rfl⟩

theorem stepNeedsMigration_eq (step : Json) :
    stepNeedsMigration step = (step.get? "input").any contains := by
  rw [stepNeedsMigration]
  cases step.get? "input" <;> rfl

theorem needsMigration_eq (workflow : Json) : needsMigration workflow = (inputs workflow).any contains := by
  rw [needsMigration, inputs]
  cases workflow.get? "steps" with
  | none => rfl
  | some steps =>
    cases steps with
    | list steps =>
      rw [List.any_filterMap]
      exact congrArg steps.any (funext stepNeedsMigration_eq)
    | _ => rfl

theorem get?_migrateStep (step : Json) :
    (migrateStep step).get? "input" = (step.get? "input").map migrateValue := by
  cases step with
  | record fields =>
    cases h : Fields.get? "input" fields with
    | none => simp [migrateStep, Json.get?, h]
    | some input => simp [migrateStep, Json.get?, h, Fields.get?_set (Fields.has_of_get? h)]
  | _ => rfl

theorem inputs_migrate (workflow : Json) : inputs (migrate workflow) = (inputs workflow).map migrateValue := by
  rcases listed_or_idle workflow with ⟨fields, steps, rfl, listed⟩ | ⟨hinputs, hsame⟩
  · rw [migrate_of_listed listed, inputs_of_listed (Fields.get?_set (Fields.has_of_get? listed)),
      inputs_of_listed listed, List.filterMap_map, List.map_filterMap]
    exact List.filterMap_congr fun step _ => get?_migrateStep step
  · rw [hsame, hinputs]
    rfl

theorem migrateStep_migrateStep_iff (step : Json) :
    migrateStep (migrateStep step) = migrateStep step ↔ ∀ input ∈ step.get? "input", ¬ Nests input := by
  cases step with
  | record fields =>
    cases h : Fields.get? "input" fields with
    | none => simp [migrateStep, Json.get?, h]
    | some input =>
      have hhas := Fields.has_of_get? h
      have hstep : migrateStep (.record fields) =
          .record (Fields.set "input" (migrateValue input) fields) := by
        rw [migrateStep, h]
      rw [hstep, migrateStep, Fields.get?_set hhas]
      simp only [Fields.set_set hhas, Json.record.injEq, Fields.set_inj hhas]
      simp [Json.get?, h, migrateValue_migrateValue_iff]
  | _ => simp [migrateStep, Json.get?]

/-- A workflow is migrated for good exactly if none of its inputs leaves a reference. -/
theorem migrate_migrate_iff (workflow : Json) :
    migrate (migrate workflow) = migrate workflow ↔ ∀ input ∈ inputs workflow, ¬ Nests input := by
  rcases listed_or_idle workflow with ⟨fields, steps, rfl, listed⟩ | ⟨hinputs, hsame⟩
  · have hhas := Fields.has_of_get? listed
    rw [migrate_of_listed listed, migrate_of_listed (Fields.get?_set hhas), Fields.set_set hhas,
      Json.record.injEq, Fields.set_inj hhas, Json.list.injEq, List.map_map, List.map_inj_left,
      inputs_of_listed listed]
    simp only [Function.comp_apply, migrateStep_migrateStep_iff, List.mem_filterMap, Option.mem_def]
    constructor
    · rintro h input ⟨step, hstep, hinput⟩
      exact h step hstep input hinput
    · exact fun h step hstep input hinput => h input ⟨step, hstep, hinput⟩
  · rw [hsame, hinputs]
    simp [hsame]

/-- Neither the workflow nor one of its steps has two members of one name. -/
structure DistinctMembers (workflow : Json) : Prop where
  distinct : ∀ fields : Fields, workflow = .record fields → fields.Distinct
  distinct_step : ∀ steps, workflow.get? "steps" = some (.list steps) →
    ∀ fields : Fields, .record fields ∈ steps → fields.Distinct

theorem migrateStep_of_current {step : Json}
    (distinct : ∀ fields : Fields, step = .record fields → fields.Distinct)
    (current : stepNeedsMigration step = false) : migrateStep step = step := by
  cases step with
  | record fields =>
    cases h : Fields.get? "input" fields with
    | none => simp [migrateStep, h]
    | some input =>
      have hinput : contains input = false := by
        simpa [stepNeedsMigration, Json.get?, h] using current
      rw [migrateStep, h]
      simp only [(migrateValue_eq_self_iff input).2 hinput, Fields.set_get? (distinct fields rfl) h]
  | _ => rfl

/-- A workflow without references of the older kind stays as it is. -/
theorem migrate_of_current {workflow : Json} (distinct : DistinctMembers workflow)
    (current : needsMigration workflow = false) : migrate workflow = workflow := by
  rcases listed_or_idle workflow with ⟨fields, steps, rfl, listed⟩ | ⟨-, hsame⟩
  · have hcurrent : ∀ step ∈ steps, stepNeedsMigration step = false := by
      simpa [needsMigration, Json.get?, listed] using current
    have hsteps : steps.map migrateStep = steps := by
      refine (List.map_congr_left fun step hstep => ?_).trans (List.map_id steps)
      refine migrateStep_of_current (fun fields hfields => ?_) (hcurrent step hstep)
      exact distinct.distinct_step steps listed fields (hfields ▸ hstep)
    rw [migrate_of_listed listed, hsteps, Fields.set_get? (distinct.distinct fields rfl) listed]
  · exact hsame

theorem any_contains_iff (values : List Json) :
    (values.map migrateValue).any contains = true ↔ ∃ value ∈ values, Nests value := by
  simp only [List.any_map, List.any_eq_true, Function.comp_apply, contains_migrateValue_iff]

/-- What a migration does to a workflow of either form, by the inputs of its steps. -/
structure Migrates {α : Type} (inputs : α → List Json) (needsMigration : α → Bool) (migrate : α → α)
    (workflow : α) : Prop where
  inputs_eq : inputs (migrate workflow) = (inputs workflow).map migrateValue
  /-- A reference is left exactly if an id in one of the inputs is a reference. -/
  needs_iff : needsMigration (migrate workflow) = true ↔ ∃ input ∈ inputs workflow, Nests input
  /-- A second migration changes nothing exactly if no reference is left. -/
  twice_iff : migrate (migrate workflow) = migrate workflow ↔ needsMigration (migrate workflow) = false
  /-- Where there is nothing to migrate, nothing is changed. -/
  same : needsMigration workflow = false → migrate workflow = workflow

theorem migrates_of_distinct {workflow : Json} (distinct : DistinctMembers workflow) :
    Migrates inputs needsMigration migrate workflow := by
  have hneeds : needsMigration (migrate workflow) = true ↔ ∃ input ∈ inputs workflow, Nests input := by
    rw [needsMigration_eq, inputs_migrate, any_contains_iff]
  refine ⟨inputs_migrate workflow, hneeds, ?_, migrate_of_current distinct⟩
  rw [migrate_migrate_iff, ← Bool.not_eq_true, hneeds]
  simp

theorem Revision.migrates (r : Revision) : Migrates Revision.inputs needsMigration migrate r := by
  have hneeds : r.migrate.needsMigration = true ↔ ∃ input ∈ r.inputs, Nests input :=
    any_contains_iff r.inputs
  refine ⟨rfl, hneeds, ?_, fun current => ?_⟩
  · rw [← Bool.not_eq_true, hneeds, migrate, migrate, Revision.mk.injEq, List.map_map, List.map_inj_left]
    simp [migrateValue_migrateValue_iff]
  · rw [needsMigration, List.any_eq_false] at current
    have hinputs : r.inputs.map migrateValue = r.inputs := by
      refine (List.map_congr_left fun input hinput => ?_).trans (List.map_id _)
      exact (migrateValue_eq_self_iff input).2 (by simpa using current input hinput)
    rw [migrate, hinputs]

/-- **A migration is complete, unless an id is a reference itself**, of workflows in JSON, whose members have
different names, and of decoded ones: nothing else is left, and then a second migration changes nothing. -/
theorem migrate_exact (workflow : Json) (w : Workflow) (distinct : DistinctMembers workflow) :
    Migrates inputs needsMigration migrate workflow ∧
      Migrates Revision.inputs Revision.needsMigration Revision.migrate (.ofWorkflow w) :=
  ⟨migrates_of_distinct distinct, (Revision.ofWorkflow w).migrates⟩

/-- A reference in a list becomes a token, and so does one in a decoded workflow; then there is nothing left to
migrate. -/
theorem migrate_exact_item :
    let reference : Json :=
      .record [("type", .str "data_point"), ("dataPointId", .str "sel"), ("field", .str "text")]
    let step (part : Json) : Json :=
      .record [("id", .str "s"), ("input", .record [("parts", .list [part, .str "plain"])])]
    let workflow (part : Json) : Json := .record [("name", .str "w"), ("steps", .list [step part])]
    let decoded : Step := { id := "s", kind := .task, taskId := some "t", input := [("x", reference)] }
    let w : Workflow := { id := some "w", name := "w", steps := [decoded], createdAt := 0, updatedAt := 0 }
    DistinctMembers (workflow reference) ∧ needsMigration (workflow reference) = true ∧
      migrate (workflow reference) = workflow (.str "${sel.text}") ∧
      migrate (migrate (workflow reference)) = migrate (workflow reference) ∧
      (Revision.ofWorkflow w).needsMigration = true ∧
      (Revision.ofWorkflow w).migrate.needsMigration = false := by
  intro reference step workflow decoded w
  have distinct : DistinctMembers (workflow reference) := by
    refine ⟨fun fields h => ?_, fun steps listed fields h => ?_⟩
    · obtain rfl := Json.record.inj h
      decide
    · obtain rfl := Json.list.inj (Option.some.inj listed)
      obtain rfl := Json.record.inj (List.mem_singleton.1 h)
      decide
  obtain ⟨hjson, hdecoded⟩ := migrate_exact (workflow reference) w distinct
  have htwice : (Revision.ofWorkflow w).migrate.migrate = (Revision.ofWorkflow w).migrate := rfl
  exact ⟨distinct, rfl, rfl, hjson.twice_iff.2 rfl, rfl, hdecoded.twice_iff.1 htwice⟩

/-- An id that is a reference becomes a text, and the record around it a reference: the workflow is to be
migrated again. -/
theorem needsMigration_migrate_nested :
    let reference (id : Json) : Json := .record [("type", .str "data_point"), ("dataPointId", id)]
    let workflow : Json := .record
      [("steps", .list [.record [("input", .record [("x", reference (reference (.str "a")))])]])]
    needsMigration (migrate workflow) = true ∧ migrate (migrate workflow) ≠ migrate workflow := by
  intro reference workflow
  refine ⟨rfl, fun h => ?_⟩
  have hneeds := congrArg needsMigration h
  exact absurd hneeds (by decide)

/-! ## What a migrated value resolves to -/

section

open Input (classify classifyItems classifyFields resolve resolveItems resolveFields)

variable (s : Store)

mutual

theorem resolve_classify_migrateValue : ∀ value : Json, contains (migrateValue value) = false →
    (classify (migrateValue value)).resolve s = (classify value).resolve s
  | .null, _ | .bool _, _ | .int _, _ | .float _, _ | .str _, _ => rfl
  | .record fields, h => by
    rw [migrateValue] at h ⊢
    cases current : Fields.legacyToken? fields with
    | some t =>
      -- the token is a text like any other now, so it may turn out to be none
      simp only
      rw [Input.resolve_classify_str, classify, current]
    | none =>
      simp only [current] at h ⊢
      rw [contains, Bool.or_eq_false_iff, Option.isSome_eq_false_iff, Option.isNone_iff_eq_none] at h
      rw [classify, classify, h.1, current]
      simp only
      rw [resolve, resolve, resolveFields_migrateFields fields h.2]
  | .list items, h => by
    rw [migrateValue] at h ⊢
    rw [classify, classify, resolve, resolve, resolveItems_migrateItems items h]

theorem resolveItems_migrateItems : ∀ items : List Json, itemsContain (migrateItems items) = false →
    resolveItems s (classifyItems (migrateItems items)) = resolveItems s (classifyItems items)
  | [], _ => rfl
  | value :: rest, h => by
    rw [migrateItems, itemsContain, Bool.or_eq_false_iff] at h
    rw [migrateItems, classifyItems, classifyItems, resolveItems, resolveItems,
      resolve_classify_migrateValue value h.1, resolveItems_migrateItems rest h.2]

theorem resolveFields_migrateFields : ∀ fields : List (String × Json),
    fieldsContain (migrateFields fields) = false →
    resolveFields s (classifyFields (migrateFields fields)) = resolveFields s (classifyFields fields)
  | [], _ => rfl
  | (key, value) :: rest, h => by
    rw [migrateFields, fieldsContain, Bool.or_eq_false_iff] at h
    rw [migrateFields, classifyFields, classifyFields, resolveFields, resolveFields,
      resolve_classify_migrateValue value h.1, resolveFields_migrateFields rest h.2]

end

end

/-- **A migration keeps what a value resolves to**, for all data points, if it leaves no reference of the older
kind: the resolved value, the failure if there is one, and what is reported on the way. -/
theorem resolve_migrateValue {value : Json} (migrated : contains (migrateValue value) = false) (s : Store) :
    (migrateValue value).resolve s = value.resolve s :=
  resolve_classify_migrateValue s value migrated

/-- An id and a field of which no token is made, a field that is no text, and an empty one: the first text stays
as it stands, in the references and in the tokens put in their place. -/
theorem resolve_migrateValue_unscanned :
    let reference (id : String) (field : Json) : Json :=
      .record [("type", .str "data_point"), ("dataPointId", .str id), ("field", field)]
    let value : Json := .list
      [reference "a b" (.str "x y"), reference "sel" (.int 3), .record [("deep", reference "sel" (.str ""))]]
    let s := Store.empty.add { id := "sel", value := .str "v", timestamp := 1 }
    contains (migrateValue value) = false ∧
      migrateValue value = .list [.str "${a b.x y}", .str "${sel}", .record [("deep", .str "${sel}")]] ∧
      (value.resolve s).outcome.value =
        .ok (.list [.str "${a b.x y}", .str "v", .record [("deep", .str "v")]]) := by
  intro reference value s
  have hmigrated : migrateValue value =
      .list [.str "${a b.x y}", .str "${sel}", .record [("deep", .str "${sel}")]] := rfl
  have hcurrent : contains (migrateValue value) = false := rfl
  refine ⟨hcurrent, hmigrated, ?_⟩
  rw [← resolve_migrateValue hcurrent s, hmigrated]
  rfl

end Legacy

end Runbook
