import Runbook.Proofs.Decode.Record
import Runbook.Workflow.Basic
import Runbook.Workflow.Step

/-!
# Workflows that are accepted

What the members of a record say about what it decodes to: a retry rule (`Retry.allowed_of_decode`), a step
(`Step.decodes_of_decodeFields`), a data point, and a workflow (`Workflow.decodes_of_decodeFields`), with its steps one
for one (`Workflow.forall₂_steps`).
-/

/-!
## Retry rules

* `allowed_of_decode` — a rule is accepted with at least one attempt, no negative delay and no shrinking.
* `decode_toJson` — a rule that was accepted is accepted as it is written.
-/

namespace Runbook

namespace Decode

open Decoded

/-- What holds of every value that is accepted, and of the one that stands for an absent field, holds of an
optional field. -/
theorem of_optional {α : Type} {names : Names} {decode : Json → Decoded α} {absent a : α} {fields : Fields}
    {P : α → Prop} (h : optional names decode absent fields = accepted a) (habsent : P absent)
    (hdecode : ∀ json a, decode json = accepted a → P a) : P a := by
  unfold optional at h
  split at h
  · rename_i name json hfind
    exact hdecode json a (within_eq_accepted.1 h)
  · exact accepted.inj h ▸ habsent

end Decode

namespace Retry

open Decode

/-- What is required of a retry rule. -/
structure Allowed (r : Retry) : Prop where
  maxAttempts : 1 ≤ r.maxAttempts
  delay : 0.0 ≤ r.delay
  backoffMultiplier : 1.0 ≤ r.backoffMultiplier

variable {json : Json} {r : Retry}

/-- A rule that is accepted has at least one attempt, no negative delay and no shrinking. -/
theorem allowed_of_decode (h : decode json = .accepted r) : r.Allowed := by
  cases json with
  | record fields =>
    have hfields : decodeFields fields = .accepted r := h
    simp only [decodeFields, Decoded.seq_eq_accepted, Decoded.map_eq_accepted] at hfields
    obtain ⟨_, _, ⟨_, _, ⟨_, hattempts, rfl⟩, hdelay, rfl⟩, hmultiplier, rfl⟩ := hfields
    exact
      { maxAttempts :=
          of_optional hattempts (by decide) fun _ _ h => (integerFrom_eq_accepted.1 h).2
        delay := of_optional hdelay (by decide) fun _ _ h => (numberFrom_eq_accepted.1 h).2
        backoffMultiplier :=
          of_optional hmultiplier (by decide) fun _ _ h => (numberFrom_eq_accepted.1 h).2 }
  | _ => cases h

/-- A rule that was accepted is accepted as it is written. -/
theorem decode_toJson (h : r.Allowed) : decode r.toJson = .accepted r := by
  have hattempts : integerFrom 1 (.int r.maxAttempts) = .accepted r.maxAttempts :=
    integerFrom_eq_accepted.2 ⟨rfl, h.maxAttempts⟩
  have hdelay : numberFrom 0.0 (.float r.delay) = .accepted r.delay :=
    numberFrom_eq_accepted.2 ⟨rfl, h.delay⟩
  have hmultiplier : numberFrom 1.0 (.float r.backoffMultiplier) = .accepted r.backoffMultiplier :=
    numberFrom_eq_accepted.2 ⟨rfl, h.backoffMultiplier⟩
  show decodeFields _ = _
  simp only [decodeFields, Decoded.seq_eq_accepted, Decoded.map_eq_accepted]
  refine ⟨_, _, ⟨_, _, ⟨_, (optional_of_get? rfl).2 hattempts, rfl⟩, ?_, rfl⟩, ?_, rfl⟩
  · exact (optional_of_get? rfl).2 hdelay
  · exact (optional_of_get? rfl).2 hmultiplier

end Retry

/-! ## Steps and workflows -/

open Decode

/-- The fields of a step that was decoded, one by one. -/
structure Step.Decodes (fields : Fields) (s : Step) : Prop where
  id : required ["id"] text fields = .accepted s.id
  kind : required ["type", "kind"] (oneOf Step.kinds .notMember) fields = .accepted s.kind
  taskId : optional ["taskId", "task_id"] (nullable text) none fields = .accepted s.taskId
  handlerId : optional ["handlerId", "handler_id"] (nullable text) none fields = .accepted s.handlerId
  input : optional ["input"] map [] fields = .accepted s.input
  condition : optional ["condition"] (nullable text) none fields = .accepted s.condition
  delay : optional ["delay"] (nullable (numberFrom 0.0)) none fields = .accepted s.delay
  retry : optional ["retry"] (nullable Retry.decode) none fields = .accepted s.retry
  extras : s.extras = Decode.extras Step.fieldNames fields

namespace Step

variable {fields : Fields} {s : Step}

theorem decodes_of_decodeFields (h : decodeFields fields = .accepted s) : s.Decodes fields := by
  simp only [decodeFields, Decoded.seq_eq_accepted, Decoded.map_eq_accepted] at h
  obtain ⟨_, _, ⟨_, _, ⟨_, _, ⟨_, _, ⟨_, _, ⟨_, _, ⟨_, _, ⟨_, _, ⟨_, hid, rfl⟩, hkind, rfl⟩, htaskId, rfl⟩,
    hhandlerId, rfl⟩, hinput, rfl⟩, hcondition, rfl⟩, hdelay, rfl⟩, hretry, rfl⟩, hextras, rfl⟩ := h
  exact ⟨hid, hkind, htaskId, hhandlerId, hinput, hcondition, hdelay, hretry, (Decoded.accepted.inj hextras).symm⟩

end Step

/-- The fields of a data point that was decoded, one by one. -/
structure DataPoint.Decodes (now : Int) (fields : Fields) (p : DataPoint) : Prop where
  id : required ["id"] nonEmptyText fields = .accepted p.id
  name : optional ["name"] text "" fields = .accepted p.name
  kind : optional ["type"] (oneOf DataPoint.kinds .notMember) .context fields = .accepted p.kind
  value : optional ["value"] anything .null fields = .accepted p.value
  source : optional ["source"] text "" fields = .accepted p.source
  timestamp : optional ["timestamp"] integer now fields = .accepted p.timestamp

theorem DataPoint.decodes_of_decodeFields {now : Int} {fields : Fields} {p : DataPoint}
    (h : decodeFields now fields = .accepted p) : p.Decodes now fields := by
  simp only [decodeFields, Decoded.seq_eq_accepted, Decoded.map_eq_accepted] at h
  obtain ⟨_, _, ⟨_, _, ⟨_, _, ⟨_, _, ⟨_, _, ⟨_, hid, rfl⟩, hname, rfl⟩, hkind, rfl⟩, hvalue, rfl⟩, hsource, rfl⟩,
    htimestamp, rfl⟩ := h
  exact ⟨hid, hname, hkind, hvalue, hsource, htimestamp⟩

namespace Workflow

variable {now : Int} {fields : Fields} {w : Workflow}

/-- The fields of a workflow that was decoded, one by one. -/
structure Decodes (now : Int) (fields : Fields) (w : Workflow) : Prop where
  id : optional ["id"] (nullable text) none fields = .accepted w.id
  name : optional ["name"] text "" fields = .accepted w.name
  description : optional ["description"] text "" fields = .accepted w.description
  steps : optional ["steps"] (list Step.decode) [] fields = .accepted w.steps
  triggers : optional ["triggers"] (list Trigger.decode) [] fields = .accepted w.triggers
  dataPoints : optional ["dataPoints", "data_points"] (list (DataPoint.decode now)) [] fields = .accepted w.dataPoints
  enabled : optional ["enabled"] truth true fields = .accepted w.enabled
  createdAt : optional ["createdAt", "created_at"] integer now fields = .accepted w.createdAt
  updatedAt : optional ["updatedAt", "updated_at"] integer now fields = .accepted w.updatedAt
  version : optional ["version"] text "1.0.0" fields = .accepted w.version
  websites : optional ["websiteConfig", "website_config"] (nullable Websites.decode) none fields =
    .accepted w.websites
  extras : w.extras = Decode.extras fieldNames fields

theorem decodes_of_decodeFields (h : decodeFields now fields = .accepted w) : w.Decodes now fields := by
  simp only [decodeFields, Decoded.seq_eq_accepted, Decoded.map_eq_accepted] at h
  obtain ⟨_, _, ⟨_, _, ⟨_, _, ⟨_, _, ⟨_, _, ⟨_, _, ⟨_, _, ⟨_, _, ⟨_, _, ⟨_, _, ⟨_, _, ⟨_, hid, rfl⟩, hname, rfl⟩,
    hdescription, rfl⟩, hsteps, rfl⟩, htriggers, rfl⟩, hdataPoints, rfl⟩, henabled, rfl⟩, hcreatedAt, rfl⟩,
    hupdatedAt, rfl⟩, hversion, rfl⟩, hwebsites, rfl⟩, hextras, rfl⟩ := h
  exact ⟨hid, hname, hdescription, hsteps, htriggers, hdataPoints, henabled, hcreatedAt, hupdatedAt, hversion,
    hwebsites, (Decoded.accepted.inj hextras).symm⟩

/-- The steps of a workflow are decoded one for one from the list of steps. -/
theorem forall₂_steps (h : decodeFields now fields = .accepted w) {steps : List Json}
    (listed : fields.get? "steps" = some (.list steps)) :
    List.Forall₂ (fun json s => Step.decode json = .accepted s) steps w.steps :=
  forall₂_of_items ((optional_of_get? listed).1 (decodes_of_decodeFields h).steps)

/-- A workflow that is decoded has a list of steps or none. -/
theorem steps_cases (h : decodeFields now fields = .accepted w) :
    (∃ steps, fields.get? "steps" = some (.list steps)) ∨ fields.get? "steps" = none ∧ w.steps = [] := by
  rcases exists_of_optional (decodes_of_decodeFields h).steps with ⟨json, hget, hjson⟩ | hnone
  · cases json with
    | list steps => exact .inl ⟨steps, hget⟩
    | _ => cases hjson
  · exact .inr hnone

end Workflow

end Runbook
