import Runbook.Proofs.Input.Resolved
import Runbook.Proofs.Json.Form
import Runbook.Proofs.Run.References

/-!
# What a step hands to the host

* `Follows.sent_of_dispatch` — what is handed to the host is the input of a step, resolved, and goes to the target
  of the step.
* `Sequential.exists_step_of_dispatch` — all that is handed to the host in a run is handed to it by a step.
* `Runner.run_dispatches_resolved` — so it has the form of the input of a step. It is a record with the same names,
  unless the input as a whole is a reference of the older kind: then it is a text.
-/

namespace Runbook.Run

/-- What is handed to the host by a request, if it is to carry out a step. -/
def Request.input? : Request → Option Json
  | dispatch _ _ input _ => some input
  | _ => none

theorem Request.input?_eq_some_iff {request : Request} {input : Json} :
    request.input? = some input ↔ ∃ kind target timeout, request = .dispatch kind target input timeout := by
  cases request <;> simp [input?, eq_comm]

/-- What a step hands to the host is its input, resolved against the data points that it found. -/
theorem StepRun.Follows.sent_of_dispatch {r : Runner} {s : Step} {run : StepRun}
    (follows : run.Follows r s) {kind : Step.Kind} {target : String} {input : Json}
    {timeout : Option Float} (h : .dispatch kind target input timeout ∈ run.requests) :
    kind = s.kind ∧ Runner.target? s = some target ∧ timeout = r.timeout ∧
      (Json.resolve run.before (.record s.input)).outcome.value = .ok input := by
  have hready : run.result.status ≠ .skipped := by
    intro hskipped
    rw [follows.quiet hskipped] at h
    cases h
  have hsent : ¬ (Runner.target? s = none ∨
      ∃ error, (Json.resolve run.before (.record s.input)).outcome.value = .error error) :=
    fun hwithheld => nomatch (follows.withheld hready hwithheld).2 _ h
  rw [not_or] at hsent
  obtain ⟨found, hfound⟩ := Option.ne_none_iff_exists'.1 hsent.1
  cases hinput : (Json.resolve run.before (.record s.input)).outcome.value with
  | error error => exact absurd ⟨error, hinput⟩ hsent.2
  | ok input' =>
    have heq := (follows.dispatched hready found input' hfound hinput).2 _ h rfl
    cases heq
    exact ⟨rfl, hfound, rfl, rfl⟩

/-- What is handed to the host is handed to it by a step. -/
theorem Sequential.exists_step_of_dispatch {r : Runner} {host : Host} {w : Workflow} {kind : Step.Kind}
    {target : String} {input : Json} {timeout : Option Float}
    (h : .dispatch kind target input timeout ∈ requests r host w) :
    ∃ (i : Nat) (s : Step) (run : StepRun), w.steps[i]? = some s ∧ (stepRuns r host w)[i]? = some run ∧
      .dispatch kind target input timeout ∈ run.requests := by
  have hmem : .dispatch kind target input timeout ∈
      (stepRuns r host w).flatMap StepRun.requests := by
    simpa [requests, opening] using h
  obtain ⟨run, hrun, hmem⟩ := List.mem_flatMap.1 hmem
  obtain ⟨i, hi⟩ := List.mem_iff_getElem?.1 hrun
  obtain ⟨hlength, -⟩ := List.getElem?_eq_some_iff.1 hi
  have hlengths := (forall₂_steps r host w.steps (initialStore r host) opening).length_eq
  have hlength' : i < w.steps.length := by rwa [hlengths]
  exact ⟨i, w.steps[i], run, List.getElem?_eq_getElem hlength', hi, hmem⟩

/-- A run makes the requests of the account, if any. -/
theorem Runner.mem_requests_of_run {r : Runner} {w : Workflow} {registry : Registry} {host : Host}
    {request : Request} (h : request ∈ ((r.run w).perform host registry []).requests) :
    request ∈ Sequential.requests r host w := by
  by_cases taken : r.runId w ∈ registry.running
  · rw [perform_run_of_mem r host taken] at h
    cases h
  · rwa [perform_run r host taken] at h

/-- A record resolves to a record with the same names exactly if it is no reference of the older kind. -/
theorem exists_members_iff {s : Store} {fields : Fields} {out : Json}
    (h : Json.ResolvesTo s (.record fields) out) :
    (∃ members : Fields, out = .record members ∧ members.map Prod.fst = fields.map Prod.fst) ↔
      fields.legacyToken? = none := by
  cases h with
  | scalar h => cases h
  | reference legacy => simp [legacy]
  | record plain names => simpa [plain] using names

/-- **What is handed to the host has the form of the input of a step.** A record resolves as `Json.ResolvesTo` says.
It becomes a record with the same names in the same order, exactly if it is no reference of the older kind itself and
no token in it asks for an item by a numeral of too many digits. What is handed to the host in a run is the input of a
step, resolved against the data points that the step found: a record with the same names, if the input is no such
reference, and else a text. -/
theorem Runner.run_dispatches_resolved (s : Store) (fields : Fields) (r : Runner) (w : Workflow)
    (registry : Registry) (host : Host) :
    (∀ out, ((Json.record fields).resolve s).outcome.value = .ok out ↔ (Json.record fields).ResolvesTo s out) ∧
    ((∃ members : Fields, ((Json.record fields).resolve s).outcome.value = .ok (.record members) ∧
        members.map Prod.fst = fields.map Prod.fst ∧
        List.Forall₂ (Json.ResolvesTo s) (fields.map Prod.snd) (members.map Prod.snd)) ↔
      fields.legacyToken? = none ∧ ∀ t ∈ (Json.record fields).tokens, ¬ s.Overlong t) ∧
    ∀ kind target input timeout,
      .dispatch kind target input timeout ∈ ((r.run w).perform host registry []).requests →
      ∃ (i : Nat) (step : Step) (run : StepRun), w.steps[i]? = some step ∧
        (Sequential.stepRuns r host w)[i]? = some run ∧
        kind = step.kind ∧ target? step = some target ∧ timeout = r.timeout ∧
        (Json.record step.input).ResolvesTo run.before input ∧
        ((∃ members : Fields, input = .record members ∧
            members.map Prod.fst = step.input.map Prod.fst) ↔
          step.input.legacyToken? = none) := by
  refine ⟨fun out => Json.resolve_eq_ok_iff, Json.exists_resolve_record_iff, ?_⟩
  intro kind target input timeout h
  obtain ⟨i, step, run, hs, hrun, hmem⟩ := Sequential.exists_step_of_dispatch (mem_requests_of_run h)
  obtain ⟨hkind, htarget, htimeout, hresolve⟩ :=
    (Sequential.follows_of_getElem? r host hs hrun).sent_of_dispatch hmem
  have resolves := Json.resolve_eq_ok_iff.1 hresolve
  exact ⟨i, step, run, hs, hrun, hkind, htarget, htimeout, resolves, exists_members_iff resolves⟩

/-- A text, a reference of the older kind and a list keep their names and their order. -/
theorem Runner.run_dispatches_resolved_members :
    let host : Host := Host.steady fun
      | .context => .ok (.items [.ready { id := "page", value := .str "text", timestamp := 0 }])
      | .knowledge => .ok []
      | .sleep _ => ()
      | .dispatch _ _ _ _ => .ok (.ready { success := true })
    let input : Fields :=
      [("z", .str "for ${page}"),
        ("old", .record [("type", .str "data_point"), ("dataPointId", .str "page")]),
        ("a", .list [.int 1, .record [("x", .str "${page.length}")]])]
    let s : Step := { id := "step_a", kind := .task, taskId := some "mail", input := input }
    let w : Workflow := { name := "Mail", createdAt := 0, updatedAt := 0, steps := [s] }
    let r : Runner := { now := 0 }
    let store : Store := Sequential.initialStore r host
    input.legacyToken? = none ∧ (∀ t ∈ (Json.record input).tokens, ¬ store.Overlong t) ∧
      (∃ members : Fields, ((Json.record input).resolve store).outcome.value = .ok (.record members) ∧
        members.map Prod.fst = ["z", "old", "a"]) ∧
      ∃ kind target sent timeout,
        .dispatch kind target sent timeout ∈ ((r.run w).perform host Registry.empty []).requests ∧
        sent.texts "input" = [("input.z", "for text"), ("input.old", "text"), ("input.a[1].x", "text")] ∧
        ∃ members : Fields, sent = .record members ∧ members.map Prod.fst = ["z", "old", "a"] := by
  intro host input s w r store
  have plain : input.legacyToken? = none := rfl
  have short : ∀ t ∈ (Json.record input).tokens, ¬ store.Overlong t := by
    have hfields : ∀ t ∈ (Json.record input).tokens, ∀ field ∈ t.field,
        field.toList.length ≤ Token.maxPositionDigits := by decide +kernel
    rintro t ht ⟨_, -, _, numeral, -, hfield, -, hlong⟩
    exact absurd hlong (Nat.not_lt.2 (hfields t ht numeral hfield))
  obtain ⟨-, hrecord, hruns⟩ := Runner.run_dispatches_resolved store input r w Registry.empty host
  obtain ⟨members, hmembers, hnames, -⟩ := hrecord.2 ⟨plain, short⟩
  refine ⟨plain, short, ⟨members, hmembers, hnames⟩, ?_⟩
  have hsent : (((r.run w).perform host Registry.empty []).requests.filterMap Request.input?).map
      (Json.texts "input") =
        [[("input.z", "for text"), ("input.old", "text"), ("input.a[1].x", "text")]] := by decide +kernel
  obtain ⟨sent, hmem, htexts⟩ := List.mem_map.1 (hsent ▸ List.mem_singleton_self _)
  obtain ⟨request, hrequest, hinput⟩ := List.mem_filterMap.1 hmem
  obtain ⟨kind, target, timeout, rfl⟩ := Request.input?_eq_some_iff.1 hinput
  obtain ⟨i, s', -, hs, -, -, -, -, -, hform⟩ := hruns kind target sent timeout hrequest
  obtain rfl : s' = s := List.mem_singleton.1 (List.mem_of_getElem? hs)
  exact ⟨kind, target, sent, timeout, hrequest, htexts, hform.2 plain⟩

/-- An input that is a reference of the older kind itself is handed over as a text. -/
theorem Runner.run_dispatches_text :
    let host : Host := Host.steady fun
      | .context => .ok (.items [.ready { id := "page", value := .str "text", timestamp := 0 }])
      | .knowledge => .ok []
      | .sleep _ => ()
      | .dispatch _ _ _ _ => .ok (.ready { success := true })
    let input : Fields := [("type", .str "data_point"), ("dataPointId", .str "page")]
    let s : Step := { id := "step_a", kind := .task, taskId := some "mail", input := input }
    let w : Workflow := { name := "Mail", createdAt := 0, updatedAt := 0, steps := [s] }
    let r : Runner := { now := 0 }
    ∃ kind target timeout,
      .dispatch kind target (.str "text") timeout ∈
        ((r.run w).perform host Registry.empty []).requests := by
  intro host input s w r
  have hsent : (((r.run w).perform host Registry.empty []).requests.filterMap Request.input?).map Json.text? =
      [some "text"] := by decide +kernel
  obtain ⟨sent, hmem, htext⟩ := List.mem_map.1 (hsent ▸ List.mem_singleton_self _)
  obtain ⟨request, hrequest, hinput⟩ := List.mem_filterMap.1 hmem
  obtain ⟨kind, target, timeout, rfl⟩ := Request.input?_eq_some_iff.1 hinput
  obtain rfl := Json.text?_eq_some_iff.1 htext
  exact ⟨kind, target, timeout, hrequest⟩

end Runbook.Run
