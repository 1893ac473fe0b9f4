import Runbook.Proofs.Reference.Review
import Runbook.Proofs.Run.References
import Runbook.Proofs.Token.Standing

/-!
# References that the analysis reports

A use of an output that the analysis reports should come to nothing. It does where a run starts without data points,
unless the output of an earlier step is taken for the one that is named.

* `Mistaken` — the ways in which the id of one output comes to stand for that of another; `mistaken_iff` says that
  there are no others.
* `Dependency.target_ne_of_reported` — the output that is named is that of no task before the step.
* `Runner.run_withholds_outputs` — so the step finds nothing under that id exactly if it can be mistaken for none of
  the outputs that are there. `Runner.run_mistakes_output` has one that is.
-/

namespace Runbook

/-! ## Outputs that are mistaken for others -/

/-- The ways in which an id is taken for that of the output of a step that it does not name. -/
inductive Mistaken (id step : String) : Prop where
  /-- The id is that of the step with a time stamp after it, as if the step were the provider of a value. -/
  | provider {stamp : List Char} (stamped : Stamped id step stamp) (long : minStampDigits ≤ stamp.length)
  /-- What comes before a time stamp goes on after the id of the output. -/
  | beginning {base : String} {stamp rest : List Char} (stamped : Stamped id base stamp)
      (long : minStampDigits ≤ stamp.length) (begins : base.toList = (step ++ outputMarker).toList ++ '_' :: rest)
  /-- The id is that of the output with `kb_` once more before it, or several times. -/
  | entry {n : Nat} (h : EntryId id.toList (n + 1) (step ++ outputMarker).toList)
  /-- The id of the output goes on after that of a knowledge entry. -/
  | extension {n : Nat} {entry : List Char} (h : EntryId id.toList n entry)
      (goesOn : entry ++ ['_'] <+: (step ++ outputMarker).toList)

section

variable {id step target : String} {stamp : List Char} {p : DataPoint}

/-- What is left of an id of which nothing is taken away. -/
theorem EntryId.eq_of_zero {cs entry : List Char} (h : EntryId cs 0 entry) : entry = cs := by
  cases h
  rfl

/-- An id that names an output is that of another output with a number after it only if both are of one step. -/
theorem NamesOutput.eq_of_stamped (named : NamesOutput target id) (h : Stamped id (step ++ outputMarker) stamp) :
    step = target := by
  cases named with
  | plain spelled =>
    -- an output's own id does not end in a digit
    have hlast := congrArg List.getLast? (spelled ▸ h.spelled : (target ++ outputMarker).toList = _)
    have hdigits := h.digits
    rw [Text.isDigits, Bool.and_eq_true, List.all_eq_true, Bool.not_eq_true', List.isEmpty_eq_false_iff] at hdigits
    rw [String.toList_append, List.getLast?_append, List.getLast?_append, List.getLast?_cons,
      List.getLast?_eq_some_getLast hdigits.1] at hlast
    have hdigit := hdigits.2 _ (List.getLast_mem hdigits.1)
    rw [← show 't' = stamp.getLast hdigits.1 by simpa [outputMarker] using hlast] at hdigit
    exact absurd hdigit (by decide)
  | stamped stamp' number spelled =>
    have hne : target ++ outputMarker ≠ "" := by
      intro hempty
      have hmarker := congrArg String.toList hempty
      rw [String.toList_append, String.toList_empty, List.append_eq_nil_iff] at hmarker
      exact absurd hmarker.2 (by decide)
    have hbase := (h.eq ⟨hne, Text.isDigits_of_isDecimal number, spelled⟩).1
    exact (String.append_left_inj _).1 hbase

/-- An id that names the output of one step stands for that of another exactly if it is mistaken for it. -/
theorem mistaken_iff (named : NamesOutput target id) (hne : step ≠ target) (hid : p.id = step ++ outputMarker)
    (hsource : p.source = step) : (∃ rank, StandsFor id p rank) ↔ Mistaken id step := by
  have hother : p.id ≠ id := by
    intro hsame
    have htarget := named.eq_of_append (hid.symm.trans hsame)
    rw [← hsame, hid] at htarget
    exact hne ((String.append_left_inj _).1 htarget)
  constructor
  · rintro ⟨rank, hstands⟩
    cases hstands with
    | same h => exact absurd h hother
    | output stamped marked => exact absurd (named.eq_of_stamped (hid ▸ stamped)) hne
    | base stamped long => exact absurd (named.eq_of_stamped (hid ▸ stamped)) hne
    | provider stamped long => exact .provider (hsource ▸ stamped) long
    | beginning stamped long begins => exact .beginning stamped long (hid ▸ begins)
    | @entry n h =>
      cases n with
      | zero => exact absurd (String.toList_inj.1 h.eq_of_zero) hother
      | succ n => exact .entry (hid ▸ h)
    | extension h goesOn => exact .extension h (hid ▸ goesOn)
  · intro hmistaken
    cases hmistaken with
    | provider stamped long => exact ⟨_, .provider (hsource.symm ▸ stamped) long⟩
    | beginning stamped long begins => exact ⟨_, .beginning stamped long (hid ▸ begins)⟩
    | entry h => exact ⟨_, .entry (hid ▸ h)⟩
    | extension h goesOn => exact ⟨_, .extension h (hid ▸ goesOn)⟩

end

/-! ## What the analysis reports -/

namespace Dependency

variable {steps : List Step} {issue : Issue}

/-- What is reported is a use of an output, in the step at its position. -/
theorem of_mem_analyze (h : issue ∈ analyze steps) :
    (∃ s, steps[issue.reference.position]? = some s ∧
        issue.reference ∈ references issue.reference.position (.ofStep s)) ∧
      problem? (steps.map fun s => some (StepView.ofStep s)) issue.reference = some issue.problem := by
  obtain ⟨r, hr, hissue⟩ := List.mem_filterMap.1 h
  obtain ⟨problem, hproblem, rfl⟩ := Option.map_eq_some_iff.1 hissue
  obtain ⟨⟨view, position⟩, hview, hr⟩ := List.mem_flatMap.1 hr
  have hview := List.mem_zipIdx_iff_getElem?.1 hview
  rw [List.getElem?_map] at hview
  obtain ⟨s, hs, rfl⟩ := Option.map_eq_some_iff.1 hview
  have hr : r ∈ references position (.ofStep s) := hr
  obtain rfl := (of_mem_references hr).1
  exact ⟨⟨s, hs, hr⟩, hproblem⟩

/-- A use that is reported names the output of no task before it. -/
theorem target_ne_of_reported (distinct : (steps.map Step.id).Nodup) (h : issue ∈ analyze steps) {j : Nat} {t : Step}
    (ht : steps[j]? = some t) (before : j < issue.reference.position) (task : t.kind = .task) :
    t.id ≠ issue.reference.target := by
  intro hid
  have hproblem := (of_mem_analyze h).2
  rw [problem?] at hproblem
  split at hproblem
  · rename_i hlocate
    exact locate_eq_none_iff.1 hlocate _ (List.mem_map_of_mem (List.mem_of_getElem? ht)) (congrArg some hid)
  · rename_i k v hlocate
    obtain ⟨hk, hv⟩ := of_locate hlocate
    rw [List.getElem?_map] at hk
    obtain ⟨u, hu, hview⟩ := Option.map_eq_some_iff.1 hk
    obtain rfl := Option.some.inj hview
    have hsame : (steps.map Step.id)[j]? = (steps.map Step.id)[k]? := by
      rw [List.getElem?_map, List.getElem?_map, ht, hu]
      exact congrArg some (hid.trans (Option.some.inj hv).symm)
    have hj : j < (steps.map Step.id).length := by
      rw [List.length_map]
      exact (List.getElem?_eq_some_iff.1 ht).1
    obtain rfl := (List.getElem?_inj hj distinct).1 hsame
    obtain rfl := Option.some.inj (ht.symm.trans hu)
    rw [if_neg (Nat.not_le.2 before)] at hproblem
    simp [StepView.ofStep, task, Step.Kind.name] at hproblem

end Dependency

/-! ## What a step finds -/

namespace Run

namespace Sequential

variable (r : Runner) (host : Host)

/-- Where a run starts without data points, a step finds the outputs of the tasks before it that succeeded, and nothing
else. -/
theorem mem_before_iff {w : Workflow} (distinct : (w.steps.map Step.id).Nodup)
    (empty : (initialStore r host).points = []) {i : Nat} {run : StepRun}
    (hrun : (stepRuns r host w)[i]? = some run) {p : DataPoint} :
    p ∈ run.before.points ↔
      ∃ j < i, ∃ earlier, (stepRuns r host w)[j]? = some earlier ∧ earlier.result.output? r.now = some p := by
  constructor
  · intro hp
    rw [before_eq r host hrun] at hp
    rcases of_mem_addAll_outputs hp with hp | ⟨earlier, hearlier, hp⟩
    · rw [empty] at hp
      cases hp
    · obtain ⟨j, hj⟩ := List.mem_iff_getElem?.1 hearlier
      rw [List.getElem?_take] at hj
      split at hj
      · rename_i hlt
        exact ⟨j, hlt, earlier, hj, hp⟩
      · cases hj
  · rintro ⟨j, hlt, earlier, hj, hp⟩
    exact mem_before r host distinct hrun hj hlt hp (by simp [empty])

end Sequential

/-- **A reference that the analysis reports comes to nothing, unless it is mistaken.** In a workflow whose steps have
ids of their own, and in a run that starts without data points: if the analysis reports that a step uses an output, then
the step finds nothing under that id exactly if it can be mistaken for the output of no task that succeeded before the
step. What it does not find is replaced by the empty text, whatever field is asked for, and warned about. -/
theorem Runner.run_withholds_outputs {r : Runner} {w : Workflow} {registry : Registry} (host : Host)
    (accepted : (registry.tryBegin (r.runId w)).1 = true) (distinct : (w.steps.map Step.id).Nodup)
    (empty : (Sequential.initialStore r host).points = []) :
    ((r.run w).perform host registry []).value = .ok (Sequential.result r host w) ∧
      ∀ issue ∈ Dependency.analyze w.steps, ∃ s run,
        w.steps[issue.reference.position]? = some s ∧ run.Follows r s ∧
          (Sequential.stepRuns r host w)[issue.reference.position]? = some run ∧
          (run.before.lookup issue.reference.token.dataPointId = none ↔
            ∀ j < issue.reference.position, ∀ earlier, (Sequential.stepRuns r host w)[j]? = some earlier →
              earlier.result.kind = .task → earlier.result.status = .succeeded →
                ¬ Mistaken issue.reference.token.dataPointId earlier.result.stepId) ∧
          (run.before.lookup issue.reference.token.dataPointId = none → ∀ field,
            run.before.resolveToken ⟨issue.reference.token.dataPointId, field⟩ = .ok "" ∧
              run.before.resolveRecords ⟨issue.reference.token.dataPointId, field⟩ =
                [run.before.unresolvedRecord ⟨issue.reference.token.dataPointId, field⟩]) := by
  refine ⟨by rw [perform_run r host (Registry.notMem_of_tryBegin accepted)], fun issue hissue => ?_⟩
  obtain ⟨⟨s, hs, hreference⟩, -⟩ := Dependency.of_mem_analyze hissue
  have hlength :=
    (Sequential.forall₂_steps r host w.steps (Sequential.initialStore r host) Sequential.opening).length_eq
  obtain ⟨run, hrun⟩ : ∃ run, (Sequential.stepRuns r host w)[issue.reference.position]? = some run :=
    ⟨_, List.getElem?_eq_getElem (hlength ▸ (List.getElem?_eq_some_iff.1 hs).1)⟩
  have named := (Dependency.of_mem_references hreference).2
  refine ⟨s, run, hs, Sequential.follows_of_getElem? r host hs hrun, hrun, ?_, fun hnone field => ?_⟩
  · -- the outputs of the tasks before the step are all that it finds, and none of them is the one that is named
    have hmistaken : ∀ {j : Nat} {earlier : StepRun} {p : DataPoint}, j < issue.reference.position →
        (Sequential.stepRuns r host w)[j]? = some earlier → earlier.result.output? r.now = some p →
        ((∃ rank, StandsFor issue.reference.token.dataPointId p rank) ↔
          Mistaken issue.reference.token.dataPointId earlier.result.stepId) := by
      intro j earlier p hlt hj hp
      obtain ⟨t, ht⟩ : ∃ t, w.steps[j]? = some t :=
        ⟨_, List.getElem?_eq_getElem (hlength ▸ (List.getElem?_eq_some_iff.1 hj).1)⟩
      have hfollows := Sequential.follows_of_getElem? r host ht hj
      have htask := (StepResult.output?_eq_some_iff.1 hp).1.1
      have hne := Dependency.target_ne_of_reported distinct hissue ht hlt (hfollows.kind.symm.trans htask)
      exact mistaken_iff named (hfollows.stepId.symm ▸ hne) (StepResult.id_output hp) (StepResult.source_output hp)
    rw [(Store.lookup_stands _ _).2]
    constructor
    · intro hnone j hlt earlier hj htask hsucceeded hmistake
      obtain ⟨p, hp⟩ := Sequential.exists_output r host (List.mem_of_getElem? hj) htask hsucceeded
      obtain ⟨rank, hstands⟩ := (hmistaken hlt hj hp).2 hmistake
      exact hnone p ((Sequential.mem_before_iff r host distinct empty hrun).2 ⟨j, hlt, earlier, hj, hp⟩) rank hstands
    · intro hnever p hmem rank hstands
      obtain ⟨j, hlt, earlier, hj, hp⟩ := (Sequential.mem_before_iff r host distinct empty hrun).1 hmem
      obtain ⟨htask, hsucceeded⟩ := (StepResult.output?_eq_some_iff.1 hp).1
      exact hnever j hlt earlier hj htask hsucceeded ((hmistaken hlt hj hp).1 ⟨rank, hstands⟩)
  · rw [Store.resolveToken, Store.resolveRecords, hnone]
    exact ⟨rfl, rfl⟩

/-- The second of three tasks uses the output of the third, and finds nothing. -/
theorem Runner.run_withholds_outputs_forward :
    let host : Host := Host.steady fun
      | .context => .ok (.items [])
      | .knowledge => .ok []
      | .sleep _ => ()
      | .dispatch _ _ _ _ => .ok (.ready { success := true, data := .str "done" })
    let first : Step := { id := "a", kind := .task, taskId := some "summary" }
    let second : Step :=
      { id := "b", kind := .task, taskId := some "mail", input := [("body", .str "so: ${c_output.to}")] }
    let third : Step := { id := "c", kind := .task, taskId := some "summary" }
    let w : Workflow :=
      { id := some "w", name := "", steps := [first, second, third], createdAt := 0, updatedAt := 0 }
    let r : Runner := { now := 0 }
    (Registry.empty.tryBegin (r.runId w)).1 = true ∧ (w.steps.map Step.id).Nodup ∧
      (Sequential.initialStore r host).points = [] ∧
      ∃ issue ∈ Dependency.analyze w.steps, issue.problem = .forward ∧
        issue.reference.token = ⟨"c_output", some "to"⟩ ∧
        ∃ run, (Sequential.stepRuns r host w)[issue.reference.position]? = some run ∧
          ¬ Mistaken "c_output" "a" ∧ run.before.resolveToken issue.reference.token = .ok "" := by
  intro host first second third w r
  have accepted : (Registry.empty.tryBegin (r.runId w)).1 = true := rfl
  have distinct : (w.steps.map Step.id).Nodup := by decide
  have empty : (Sequential.initialStore r host).points = [] := rfl
  let issue : Dependency.Issue := ⟨⟨1, some "b", "steps[1].input.body", ⟨"c_output", some "to"⟩, "c"⟩, .forward⟩
  have hissue : issue ∈ Dependency.analyze w.steps := by decide +kernel
  obtain ⟨-, hwithholds⟩ := Runner.run_withholds_outputs host accepted distinct empty
  obtain ⟨s, run, -, -, hrun, hlookup, hresolved⟩ := hwithholds issue hissue
  have hmissing : ((Sequential.stepRuns r host w)[1]?.map fun run => (run.before.lookup "c_output").isNone) =
      some true := by decide +kernel
  rw [show (Sequential.stepRuns r host w)[1]? = some run from hrun, Option.map_some, Option.some.injEq,
    Option.isNone_iff_eq_none] at hmissing
  have hmistaken : ¬ Mistaken "c_output" "a" := hlookup.1 hmissing 0 (by decide) _ rfl rfl rfl
  exact ⟨accepted, distinct, empty, issue, hissue, rfl, rfl, run, hrun, hmistaken, (hresolved hmissing _).1⟩

/-- The second of two tasks uses the output of a step that does not exist, and finds that of the first: the name of
the missing step has `kb_` before it twice, and that of the first step once. -/
theorem Runner.run_mistakes_output :
    let host : Host := Host.steady fun
      | .context => .ok (.items [])
      | .knowledge => .ok []
      | .sleep _ => ()
      | .dispatch _ _ _ _ => .ok (.ready { success := true, data := .str "done" })
    let first : Step := { id := "kb_search", kind := .task, taskId := some "summary" }
    let second : Step :=
      { id := "b", kind := .task, taskId := some "mail", input := [("body", .str "${kb_kb_search_output}")] }
    let w : Workflow :=
      { id := some "w", name := "", steps := [first, second], createdAt := 0, updatedAt := 0 }
    let r : Runner := { now := 0 }
    (Registry.empty.tryBegin (r.runId w)).1 = true ∧ (w.steps.map Step.id).Nodup ∧
      (Sequential.initialStore r host).points = [] ∧
      ∃ issue ∈ Dependency.analyze w.steps, issue.problem = .unknownStep ∧
        issue.reference.token = ⟨"kb_kb_search_output", none⟩ ∧
        ∃ run, (Sequential.stepRuns r host w)[issue.reference.position]? = some run ∧
          (run.before.resolveToken issue.reference.token).toOption = some "done" := by
  intro host first second w r
  let issue : Dependency.Issue :=
    ⟨⟨1, some "b", "steps[1].input.body", ⟨"kb_kb_search_output", none⟩, "kb_kb_search"⟩, .unknownStep⟩
  have hissue : issue ∈ Dependency.analyze w.steps := by decide +kernel
  have hfound : ((Sequential.stepRuns r host w)[1]?.map fun run =>
      (run.before.resolveToken ⟨"kb_kb_search_output", none⟩).toOption) = some (some "done") := by decide +kernel
  obtain ⟨run, hrun, hresolved⟩ := Option.map_eq_some_iff.1 hfound
  exact ⟨rfl, by decide, rfl, issue, hissue, rfl, rfl, run, hrun, hresolved⟩

end Run

end Runbook
