import Runbook.Proofs.Run.DataPoints
import Runbook.Reference.Output

/-!
# The outputs of steps

* `StepResult.output?_eq_some_iff` — whose output a data point is.
* `nodup_outputs` — steps with ids of their own have outputs with ids of their own.
* `mem_addAll_outputs` — so none of them is lost when they are added.
* `Sequential.before_eq` — what a step finds are the data points at the start of the run and the outputs of
  the steps before it.
-/

namespace Runbook.Run

theorem StepResult.output?_eq_some_iff {now : Int} {result : StepResult} {p : DataPoint} :
    result.output? now = some p ↔
      (result.kind = .task ∧ result.status = .succeeded) ∧ ∃ response,
        result.response = some response ∧ DataPoint.ofTaskOutput now result.stepId response.data = p := by
  unfold output?
  by_cases h : result.kind = .task ∧ result.status = .succeeded
  · rw [if_pos h, Option.map_eq_some_iff]
    simp [h]
  · rw [if_neg h]
    simp [h]

/-- The id of an output is that of its step with the marker after it. -/
theorem StepResult.id_output {now : Int} {result : StepResult} {p : DataPoint}
    (h : result.output? now = some p) : p.id = result.stepId ++ outputMarker := by
  obtain ⟨-, response, -, rfl⟩ := output?_eq_some_iff.1 h
  rfl

theorem StepResult.source_output {now : Int} {result : StepResult} {p : DataPoint}
    (h : result.output? now = some p) : p.source = result.stepId := by
  obtain ⟨-, response, -, rfl⟩ := output?_eq_some_iff.1 h
  rfl

/-- The outputs of some steps. -/
def outputs (now : Int) (runs : List StepRun) : List DataPoint :=
  runs.filterMap fun run => run.result.output? now

theorem outputs_cons (now : Int) (run : StepRun) (runs : List StepRun) :
    outputs now (run :: runs) = (run.result.output? now).toList ++ outputs now runs := by
  rw [outputs, List.filterMap_cons]
  cases run.result.output? now <;> rfl

theorem mem_outputs {now : Int} {runs : List StepRun} {p : DataPoint} :
    p ∈ outputs now runs ↔ ∃ run ∈ runs, run.result.output? now = some p :=
  List.mem_filterMap

/-- Steps with ids of their own have outputs with ids of their own. -/
theorem nodup_outputs {now : Int} {runs : List StepRun}
    (h : (runs.map fun run => run.result.stepId).Nodup) :
    ((outputs now runs).map DataPoint.id).Nodup := by
  induction runs with
  | nil => exact List.nodup_nil
  | cons run runs ih =>
    rw [List.map_cons, List.nodup_cons] at h
    have hrest := ih h.2
    cases hp : run.result.output? now with
    | none => rwa [outputs_cons, hp]
    | some p =>
      rw [outputs_cons, hp, Option.toList_some, List.singleton_append, List.map_cons, List.nodup_cons]
      refine ⟨fun hmem => ?_, hrest⟩
      obtain ⟨q, hq, hid⟩ := List.mem_map.1 hmem
      obtain ⟨other, hother, hq⟩ := mem_outputs.1 hq
      rw [StepResult.id_output hq, StepResult.id_output hp, String.append_left_inj] at hid
      exact h.1 (hid ▸ List.mem_map_of_mem hother)

/-- The output of each of some steps with ids of their own is there once all are added. -/
theorem mem_addAll_outputs {now : Int} {runs : List StepRun} {store : Store} {run : StepRun}
    {p : DataPoint} (distinct : (runs.map fun run => run.result.stepId).Nodup) (h : run ∈ runs)
    (hp : run.result.output? now = some p) (fresh : ∀ q ∈ store.points, q.id ≠ p.id) :
    p ∈ (store.addAll (outputs now runs)).points :=
  Store.mem_addAll_of_nodup (nodup_outputs distinct) (mem_outputs.2 ⟨run, h, hp⟩) fresh

theorem of_mem_addAll_outputs {now : Int} {runs : List StepRun} {store : Store} {p : DataPoint}
    (h : p ∈ (store.addAll (outputs now runs)).points) :
    p ∈ store.points ∨ ∃ run ∈ runs, run.result.output? now = some p :=
  (Store.of_mem_addAll h).imp_right mem_outputs.1

namespace Sequential

variable (r : Runner) (host : Host)

/-- A step finds the data points at the start and the outputs of the steps before it. -/
theorem before_eq {ss : List Step} {store : Store} {past : List Request} {i : Nat} {run : StepRun}
    (h : (steps r host ss store past)[i]? = some run) :
    run.before = store.addAll (outputs r.now ((steps r host ss store past).take i)) := by
  induction ss generalizing store past i with
  | nil => simp [steps] at h
  | cons s rest ih =>
    rw [steps] at h ⊢
    cases i with
    | zero =>
      obtain rfl := Option.some.inj h
      exact before_step r host s store past
    | succ i =>
      rw [ih h, after_step, ← Store.addAll_append, List.take_succ_cons, outputs_cons]

theorem finalStore_eq (ss : List Step) (store : Store) (past : List Request) :
    finalStore store (steps r host ss store past) =
      store.addAll (outputs r.now (steps r host ss store past)) :=
  finalStore_steps r host ss store past

/-- The results of the steps of a run carry the ids of the steps. -/
theorem stepIds_steps (ss : List Step) (store : Store) (past : List Request) :
    ((steps r host ss store past).map fun run => run.result.stepId) = ss.map Step.id := by
  have hlabels := congrArg (List.map Prod.fst)
    (labels_of_forall₂ (forall₂_steps r host ss store past))
  simpa [List.map_map, Function.comp_def] using hlabels

end Sequential

end Runbook.Run
