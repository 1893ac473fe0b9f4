import Runbook.Proofs.Reference.Dependency
import Runbook.Proofs.Run.Outputs
import Runbook.Proofs.Token.Lookup

/-!
# References that the analysis lets pass

* `Sequential.mem_before` — the output of a step is among the data points that every later step finds.
* `Runner.run_resolves_references` — a use of an output that the analysis does not report stands for that
  output when the step is run, if the step whose output it is succeeded.
-/

namespace Runbook.Run

namespace Sequential

variable (r : Runner) (host : Host) {ss : List Step} {store : Store} {past : List Request}

/-- The output of a step is among the data points that every later step finds. -/
theorem mem_before (distinct : (ss.map Step.id).Nodup) {i j : Nat} {run target : StepRun}
    (hrun : (steps r host ss store past)[i]? = some run)
    (htarget : (steps r host ss store past)[j]? = some target) (hlt : j < i) {p : DataPoint}
    (hp : target.result.output? r.now = some p) (fresh : ∀ q ∈ store.points, q.id ≠ p.id) :
    p ∈ run.before.points := by
  have hnodup : (((steps r host ss store past).take i).map fun run => run.result.stepId).Nodup := by
    rw [List.map_take, stepIds_steps]
    exact distinct.sublist (List.take_sublist _ _)
  have hmem : target ∈ (steps r host ss store past).take i := by
    refine List.mem_of_getElem? (i := j) ?_
    rw [List.getElem?_take, if_pos hlt, htarget]
  rw [before_eq r host hrun]
  exact mem_addAll_outputs hnodup hmem hp fresh

/-- The result of a step is found at the position of the step. -/
theorem eq_of_stepId (distinct : (ss.map Step.id).Nodup) {j : Nat} {t : Step} (ht : ss[j]? = some t)
    {target : StepRun} (htarget : target ∈ steps r host ss store past)
    (hid : target.result.stepId = t.id) : (steps r host ss store past)[j]? = some target := by
  obtain ⟨k, hk⟩ := List.mem_iff_getElem?.1 htarget
  have hids := stepIds_steps r host ss store past
  have hkid : (ss.map Step.id)[k]? = some t.id := by
    rw [← hids, List.getElem?_map, hk, ← hid]
    rfl
  have hjid : (ss.map Step.id)[j]? = some t.id := by
    rw [List.getElem?_map, ht]
    rfl
  obtain ⟨hlength, -⟩ := List.getElem?_eq_some_iff.1 hkid
  obtain rfl : k = j := (List.getElem?_inj hlength distinct).1 (hkid.trans hjid.symm)
  exact hk

theorem follows_of_getElem? {i : Nat} {s : Step} {run : StepRun} (hs : ss[i]? = some s)
    (hrun : (steps r host ss store past)[i]? = some run) : run.Follows r s := by
  obtain ⟨hi, rfl⟩ := List.getElem?_eq_some_iff.1 hs
  obtain ⟨hi', rfl⟩ := List.getElem?_eq_some_iff.1 hrun
  exact (forall₂_steps r host ss store past).get hi hi'

/-- The output of a task that succeeded is the data of its response. -/
theorem exists_output {run : StepRun} (h : run ∈ steps r host ss store past)
    (task : run.result.kind = .task) (succeeded : run.result.status = .succeeded) :
    ∃ p, run.result.output? r.now = some p := by
  obtain ⟨earlier, later, hruns⟩ := List.append_of_mem h
  obtain ⟨_, _, _, _, response, -, -, -, -, hresponse⟩ := answered_steps r host hruns succeeded
  exact ⟨_, StepResult.output?_eq_some_iff.2 ⟨⟨task, succeeded⟩, response, hresponse, rfl⟩⟩

end Sequential

/-- **A reference that the analysis lets pass stands for the output that it names.** In a workflow whose
steps have ids of their own: if a step uses the output of another and the analysis does not report it, and
the other step succeeded, then what the step finds under that id is the output of the other step, unless the
run has started with a data point under one of the two ids. -/
theorem Runner.run_resolves_references {r : Runner} {w : Workflow} {registry : Registry} (host : Host)
    (accepted : (registry.tryBegin (r.runId w)).1 = true) (distinct : (w.steps.map Step.id).Nodup) :
    ((r.run w).perform host registry []).value = .ok (Sequential.result r host w) ∧
      ∀ (i : Nat) (s : Step) (run : StepRun), w.steps[i]? = some s →
        (Sequential.stepRuns r host w)[i]? = some run →
        ∀ reference ∈ Dependency.references i (.ofStep s),
          reference ∉ (Dependency.analyze w.steps).map Dependency.Issue.reference →
          ∀ target ∈ (Sequential.result r host w).steps, target.stepId = reference.target →
            target.status = .succeeded →
            (∀ q ∈ (Sequential.initialStore r host).points,
              q.id ≠ reference.token.dataPointId ∧ q.id ≠ reference.target ++ outputMarker) →
            ∃ p, target.output? r.now = some p ∧
              run.before.lookup reference.token.dataPointId = some p ∧
                p.id = reference.target ++ outputMarker ∧ p.source = reference.target := by
  refine ⟨by rw [perform_run r host (Registry.notMem_of_tryBegin accepted)], ?_⟩
  intro i s run hs hrun reference hreference unreported target htarget hid succeeded fresh
  obtain ⟨other, hother, rfl⟩ := List.mem_map.1 htarget
  obtain ⟨j, t, hlt, ht, htid, htask⟩ :=
    Dependency.exists_target_of_unreported hs hreference unreported
  have hj : (Sequential.stepRuns r host w)[j]? = some other :=
    Sequential.eq_of_stepId r host distinct ht hother (hid.trans htid.symm)
  have hkind := (Sequential.follows_of_getElem? r host ht hj).kind.trans htask
  obtain ⟨p, hp⟩ := Sequential.exists_output r host hother hkind succeeded
  have hpid : p.id = reference.target ++ outputMarker := by rw [StepResult.id_output hp, hid]
  have hmem : p ∈ run.before.points :=
    Sequential.mem_before r host distinct hrun hj hlt hp fun q hq => hpid ▸ (fresh q hq).2
  have named := (Dependency.of_mem_references hreference).2
  refine ⟨p, hp, Store.lookup_output hmem hpid named fun q hq hqid => ?_, hpid, ?_⟩
  · -- what has the id of the reference was not there at the start, so it is an output
    rw [Sequential.before_eq r host hrun] at hq
    rcases of_mem_addAll_outputs hq with hq | ⟨another, -, hanother⟩
    · exact absurd hqid (fresh q hq).1
    · have hqoutput := StepResult.id_output hanother
      rw [hpid, hqid]
      exact named.eq_of_append (hqoutput.symm.trans hqid)
  · rw [StepResult.source_output hp, hid]

/-- The second of two tasks uses the output of the first under an id with a stamp, and finds it. -/
theorem Runner.run_resolves_references_stamped :
    let host : Host := Host.steady fun
      | .context => .ok (.items [])
      | .knowledge => .ok []
      | .sleep _ => ()
      | .dispatch _ _ _ _ => .ok (.ready { success := true, data := .str "done" })
    let first : Step := { id := "a", kind := .task, taskId := some "summary" }
    let second : Step :=
      { id := "b", kind := .task, taskId := some "mail",
        input := [("body", .str "so: ${a_output_1712345678}")] }
    let w : Workflow :=
      { id := some "w", name := "", steps := [first, second], createdAt := 0, updatedAt := 0 }
    let r : Runner := { now := 0 }
    (Registry.empty.tryBegin (r.runId w)).1 = true ∧ (w.steps.map Step.id).Nodup ∧
      ∃ run, (Sequential.stepRuns r host w)[1]? = some run ∧
        run.before.lookup "a_output_1712345678" = some (DataPoint.ofTaskOutput 0 "a" (.str "done")) := by
  intro host first second w r
  have accepted : (Registry.empty.tryBegin (r.runId w)).1 = true := rfl
  have distinct : (w.steps.map Step.id).Nodup := by decide
  obtain ⟨-, hresolves⟩ := Runner.run_resolves_references host accepted distinct
  let reference : Dependency.Reference :=
    ⟨1, some "b", "steps[1].input.body", ⟨"a_output_1712345678", none⟩, "a"⟩
  have hmem : reference ∈ Dependency.references 1 (.ofStep second) := by decide +kernel
  have hunreported :
      reference ∉ (Dependency.analyze w.steps).map Dependency.Issue.reference := by decide +kernel
  have hfresh : (Sequential.initialStore r host).points = [] := rfl
  obtain ⟨p, houtput, hlookup, -, -⟩ := hresolves 1 second _ rfl rfl reference hmem hunreported _
    (List.mem_cons_self ..) rfl rfl (by simp [hfresh])
  obtain rfl : DataPoint.ofTaskOutput 0 "a" (.str "done") = p := Option.some.inj houtput
  exact ⟨accepted, distinct, _, rfl, hlookup⟩

end Runbook.Run
