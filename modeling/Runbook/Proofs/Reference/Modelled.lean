import Runbook.Proofs.Reference.Decoded
import Runbook.Proofs.Workflow.Enduring

/-!
# Repair of a workflow and of its record

A workflow is repaired by way of its record: it is written in brief, the record is repaired, and the workflow is decoded
again (`repairWorkflow_eq_ok_iff`). In comparison with the record that it was decoded from, which may have nulls,
members without a meaning and second names, the same is found and replaced. But what is decoded again is not always
what was decoded before, so that the outcomes agree exactly if the workflow is steady and enduring
(`repairWorkflow_agrees`).
-/

namespace Runbook

open Decode

/-! ## Texts that are rewritten -/

namespace Json

variable (f : String → String)

mutual

theorem mapTexts_exchanged : ∀ json : Json, json.exchanged.mapTexts f = (json.mapTexts f).exchanged
  | null | bool _ | int _ | str _ => rfl
  | float x => by cases hx : x.isFinite <;> simp [exchanged, mapTexts, hx]
  | list items => congrArg list (mapItemTexts_exchangedItems items)
  | record fields => congrArg record (mapFieldTexts_exchangedFields fields)

theorem mapItemTexts_exchangedItems : ∀ items : List Json,
    mapItemTexts f (exchangedItems items) = exchangedItems (mapItemTexts f items)
  | [] => rfl
  | item :: items => congrArg₂ List.cons (mapTexts_exchanged item) (mapItemTexts_exchangedItems items)

theorem mapFieldTexts_exchangedFields : ∀ fields : List (String × Json),
    mapFieldTexts f (exchangedFields fields) = exchangedFields (mapFieldTexts f fields)
  | [] => rfl
  | (key, item) :: fields =>
    congrArg₂ (fun item fields => (key, item) :: fields) (mapTexts_exchanged item)
      (mapFieldTexts_exchangedFields fields)

end

end Json

namespace Step

theorem rewritten_settled (f : String → String) (s : Step) : s.settled.rewritten f = (s.rewritten f).settled := by
  simp only [rewritten, settled, Json.mapFieldTexts_exchangedFields]

theorem steady_rewritten_iff {f : String → String} {s : Step} : (s.rewritten f).Steady ↔ s.Steady :=
  ⟨fun h => ⟨h.taskId, h.handlerId⟩, fun h => ⟨h.taskId, h.handlerId⟩⟩

end Step

namespace Workflow

variable {w : Workflow}

/-- It does not matter whether a workflow is repaired before it is written and read or after. -/
theorem repaired_settled (w : Workflow) : w.settled.repaired = w.repaired.settled := by
  have hids : w.settled.steps.map Step.id = w.steps.map Step.id := by
    simp only [settled, List.map_map]
    rfl
  rw [repaired, hids, repaired]
  simp only [rewritten, settled, List.map_map, Function.comp_def, Step.rewritten_settled]

theorem steady_repaired_iff : w.repaired.Steady ↔ w.Steady := by
  have hsteps : (∀ s ∈ w.repaired.steps, s.Steady) ↔ ∀ s ∈ w.steps, s.Steady := by
    simp only [repaired, rewritten, List.forall_mem_map, Step.steady_rewritten_iff]
  exact ⟨fun h => ⟨hsteps.1 h.steps, h.websites⟩, fun h => ⟨hsteps.2 h.steps, h.websites⟩⟩

theorem enduring_repaired_iff : w.repaired.Enduring ↔ w.Enduring := by
  have hsteps : (∀ s ∈ w.repaired.steps, ∀ field ∈ s.extras, field.2.Endures) ↔
      ∀ s ∈ w.steps, ∀ field ∈ s.extras, field.2.Endures := by
    simp only [repaired, rewritten, List.forall_mem_map, Step.rewritten]
  exact ⟨fun h => ⟨hsteps.1 h.steps, h.triggers, h.dataPoints, h.extras⟩,
    fun h => ⟨hsteps.2 h.steps, h.triggers, h.dataPoints, h.extras⟩⟩

theorem Coherent.repaired (h : w.Coherent) : w.repaired.Coherent where
  steps := by
    refine List.forall_mem_map.2 fun s hs => ?_
    exact ⟨(h.steps s hs).delay, (h.steps s hs).retry, (h.steps s hs).spare⟩
  triggers := h.triggers
  dataPoints := h.dataPoints
  spare := h.spare

end Workflow

/-! ## Workflows that are repaired -/

namespace Repair

variable {now : Int} {json : Json} {w : Workflow}

/-- A workflow is repaired if what is written for it is decoded, and what was decoded is repaired. -/
theorem repairWorkflow_eq_ok_iff (h : w.Coherent) {r : Result Workflow} :
    repairWorkflow now w = .ok r ↔
      ∃ read, Workflow.decode now (w.toJson .brief) = .accepted read ∧ r = ⟨read.repaired, w.suggestions⟩ := by
  rw [repairWorkflow, decode_repairJson, suggestions_repairJson_toJson h]
  cases Workflow.decode now (w.toJson .brief) with
  | accepted read =>
    show Except.ok (Result.mk read.repaired w.suggestions) = Except.ok r ↔ _
    simp [eq_comm]
  | rejected issues =>
    show Except.error _ = Except.ok r ↔ _
    simp

/-- The outcome is written as the repaired record is, once that is decoded, if the workflow is steady and enduring, and
only then. -/
theorem exists_toJson_eq_iff (h : w.Coherent) :
    (∃ r, repairWorkflow now w = .ok r ∧ r.workflow.toJson .brief = w.repaired.toJson .brief) ↔
      w.Steady ∧ w.Enduring := by
  simp only [repairWorkflow_eq_ok_iff h]
  constructor
  · rintro ⟨_, ⟨read, hread, rfl⟩, heq⟩
    have hcoherent : read.Coherent := Workflow.coherent_of_decode h.distinctNames hread
    have hsteady : read.repaired.Steady := Workflow.steady_repaired_iff.2 (Workflow.steady_of_decode h hread)
    have steady : w.Steady := Workflow.steady_repaired_iff.1
      (Workflow.steady_of_toJson_eq hcoherent.repaired h.repaired heq hsteady)
    rw [h.decode_toJson steady] at hread
    obtain rfl := Decoded.accepted.inj hread
    rw [Workflow.repaired_settled, Workflow.toJson_settled_eq_iff, Workflow.enduring_repaired_iff] at heq
    exact ⟨steady, heq⟩
  · rintro ⟨steady, enduring⟩
    refine ⟨_, ⟨_, h.decode_toJson steady now, rfl⟩, ?_⟩
    rw [Workflow.repaired_settled, Workflow.toJson_settled_eq_iff, Workflow.enduring_repaired_iff]
    exact enduring

/-- **A workflow is repaired as the record is from which it was decoded.** If no two members of that record have one
name, the repaired record is accepted, too; a repair of the workflow that succeeds finds the same in the same order and
counts as much; of a steady workflow it succeeds, and its outcome is what the repaired record decodes to when that was
written and read. The two outcomes are written in the same way if the workflow is steady and enduring, and only
then. -/
theorem repairWorkflow_agrees (distinct : Workflow.DistinctNames json)
    (decoded : Workflow.decode now json = .accepted w) :
    ∃ w', Workflow.decode now (repairJson json).workflow = .accepted w' ∧
      (∀ r, repairWorkflow now w = .ok r → r.suggestions = (repairJson json).suggestions ∧
        r.fixedCount = (repairJson json).fixedCount ∧ r.repaired = (repairJson json).repaired) ∧
      (w.Steady → ∃ r, repairWorkflow now w = .ok r ∧ r.workflow = w'.settled) ∧
      ((∃ r, repairWorkflow now w = .ok r ∧ r.workflow.toJson .brief = w'.toJson .brief) ↔
        w.Steady ∧ w.Enduring) := by
  have coherent := Workflow.coherent_of_decode distinct decoded
  have hrepaired : Workflow.decode now (repairJson json).workflow = .accepted w.repaired := by
    rw [decode_repairJson, decoded]
    rfl
  refine ⟨w.repaired, hrepaired, ?_, ?_, exists_toJson_eq_iff coherent⟩
  · intro r hr
    obtain ⟨read, -, rfl⟩ := (repairWorkflow_eq_ok_iff coherent).1 hr
    have hsuggestions : w.suggestions = (repairJson json).suggestions := (suggestions_repairJson decoded).symm
    have hcount : (Result.mk read.repaired w.suggestions).fixedCount = (repairJson json).fixedCount := by
      rw [Result.fixedCount, hsuggestions, Result.fixedCount]
    exact ⟨hsuggestions, hcount, by rw [Result.repaired, hcount, Result.repaired]⟩
  · intro steady
    exact ⟨_, (repairWorkflow_eq_ok_iff coherent).2 ⟨_, coherent.decode_toJson steady now, rfl⟩,
      Workflow.repaired_settled w⟩

/-- A record with a null, a second name and a member without a meaning, in which one reference is corrected. -/
theorem repairWorkflow_agrees_drifted :
    let json : Json := .record
      [("name", .str "w"), ("note", .null), ("steps", .list
        [.record [("id", .str "step_1_0"), ("kind", .str "task"), ("task_id", .str "t"), ("condition", .null),
          ("pos", .int 3), ("input", .record [("q", .str "${step_1_output}")])]])]
    let w : Workflow :=
      { name := "w", createdAt := 7, updatedAt := 7, extras := [("note", .null)]
        steps :=
          [{ id := "step_1_0", kind := .task, taskId := some "t", input := [("q", .str "${step_1_output}")]
             extras := [("pos", .int 3)] }] }
    Workflow.DistinctNames json ∧ Workflow.decode 7 json = .accepted w ∧ w.Steady ∧ w.Enduring ∧
      ∃ w' r, Workflow.decode 7 (repairJson json).workflow = .accepted w' ∧ repairWorkflow 7 w = .ok r ∧
        r.workflow.toJson .brief = w'.toJson .brief ∧ r.fixedCount = 1 := by
  intro json w
  have distinct : Workflow.DistinctNames json := by
    refine ⟨by decide, ?_, ?_⟩
    · rintro _ ⟨⟩
      decide
    · rintro _ ⟨⟩
  have decoded : Workflow.decode 7 json = .accepted w := rfl
  have steady : w.Steady := by decide
  have enduring : w.Enduring := ⟨by decide, by decide, by decide, by decide⟩
  obtain ⟨w', hw', hreport, -, hagree⟩ := repairWorkflow_agrees distinct decoded
  obtain ⟨r, hr, hjson⟩ := hagree.2 ⟨steady, enduring⟩
  obtain ⟨-, hcount, -⟩ := hreport r hr
  exact ⟨distinct, decoded, steady, enduring, w', r, hw', hr, hjson, hcount.trans (by decide +kernel)⟩

/-- Where the target of a step is null and a member has the second name of the target, nothing is repaired, and yet
the step has a target afterwards. -/
theorem repairWorkflow_strays :
    let json : Json := .record
      [("name", .str "w"), ("steps", .list
        [.record [("id", .str "s"), ("type", .str "task"), ("taskId", .null), ("task_id", .str "t")]])]
    ∃ w w' r, Workflow.decode 7 json = .accepted w ∧ Workflow.decode 7 (repairJson json).workflow = .accepted w' ∧
      repairWorkflow 7 w = .ok r ∧ (repairJson json).suggestions = [] ∧ w'.steps.map Step.taskId = [none] ∧
        r.workflow.steps.map Step.taskId = [some "t"] ∧ r.workflow.toJson .brief ≠ w'.toJson .brief := by
  intro json
  refine ⟨_, _, _, rfl, rfl, rfl, rfl, rfl, rfl, fun h => ?_⟩
  have htargets := congrArg (fun json : Json => ((json.get? "steps").bind Json.items?).map fun steps =>
    steps.map fun step => (step.get? "taskId").bind Json.text?) h
  exact absurd htargets (by decide)

end Repair

end Runbook
