import Runbook.Proofs.Run.Inputs
import Runbook.Proofs.Run.Validated

/-!
# What reaches the host

* `Step.Regular` — the ways by which a placeholder can come about that the validation does not look at.
* `Runner.run_withholds_placeholders` — if none of them is taken in a workflow that passes the validation,
  then no placeholder reaches the host.
-/

namespace Runbook

open Placeholder (Occurs Unmarked)

/-- Does the input of a step keep to what the validation looks at? References of the older kind are written
out only later, and a `$` and a `{` come together only when the tokens between them come to nothing. -/
structure Step.Regular (s : Step) : Prop where
  /-- Written out, the references of the older kind have no placeholder that is no token. -/
  legacy : ∀ t ∈ (Json.record s.input).legacyTokens, Placeholder.WellFormed t.write
  /-- No tokens split a placeholder. -/
  whole : ∀ leaf ∈ (Json.record s.input).templates "input", ∀ ts, ts ≠ [] →
    ¬ Template.Splits ts (Template.segments leaf.2.toList)

namespace Run

/-- If a step is sound and regular and unmarked texts come in the place of its tokens, then no placeholder is
left in its input. -/
theorem not_occurs_resolve {s : Step} {store : Store} {input : Json} (sound : s.Sound)
    (regular : s.Regular)
    (unmarked : ∀ leaf ∈ (Json.record s.input).templates "input", ∀ t ∈ Template.tokens leaf.2,
      ∀ text, store.resolveToken t = .ok text → Unmarked text.toList)
    (h : (Json.resolve store (.record s.input)).outcome.value = .ok input) (path : String) :
    ∀ leaf ∈ input.texts path, ¬ Occurs leaf.2.toList := by
  obtain ⟨path', hwellFormed⟩ := sound.input
  have htemplates : ∀ leaf ∈ (Json.record s.input).templates "input",
      Placeholder.WellFormed leaf.2 := Input.forall_templates hwellFormed regular.legacy
  refine Input.forall_texts_resolve (P := fun text => ¬ Occurs text.toList) (p := path') (q := "input")
    (fun leaf hleaf htokens => ?_) (fun leaf hleaf text htext => ?_) h
  · exact Template.not_occurs_of_not_hasTokens (hwellFormed leaf hleaf) htokens
  · exact Store.not_occurs_resolveText (htemplates leaf hleaf) (regular.whole leaf hleaf)
      (unmarked leaf hleaf) htext

/-- A reference of the older kind whose id is no identifier becomes a placeholder, and stays one. -/
example :
    let input : Json :=
      .record [("x", .record [("type", .str "data_point"), ("dataPointId", .str "a b")])]
    ((Json.resolve Store.empty input).outcome.value.toOption.map (Json.texts "input")) =
      some [("input.x", "${a b}")] := by decide +kernel

/-- **No placeholder reaches the host.** In a run of a workflow that passes the validation and whose steps
are regular, no text in what is handed to the host has a placeholder, if what stands for the tokens in the
inputs has neither `$` nor braces. The names of members are handed over as they are in the input of the
step. -/
theorem Runner.run_withholds_placeholders {json : Json} {now : Int} {r : Runner} {w : Workflow}
    {registry : Registry} (host : Host) (passes : Validation.Passes json)
    (decoded : Workflow.decode now json = .accepted w)
    (accepted : (registry.tryBegin (r.runId w)).1 = true) (regular : ∀ s ∈ w.steps, s.Regular)
    (unmarked : ∀ (i : Nat) s run, w.steps[i]? = some s →
      (Sequential.stepRuns r host w)[i]? = some run →
      ∀ leaf ∈ (Json.record s.input).templates "input", ∀ t ∈ Template.tokens leaf.2,
        ∀ text, run.before.resolveToken t = .ok text → Unmarked text.toList) :
    (r.run w).perform host registry [] =
        ⟨.ok (Sequential.result r host w), registry, Sequential.requests r host w⟩ ∧
      ∀ kind target input timeout,
        .dispatch kind target input timeout ∈ Sequential.requests r host w →
        (∀ path, ∀ leaf ∈ input.texts path, ¬ Occurs leaf.2.toList) ∧
          ∃ s ∈ w.steps, input.names ⊆ (Json.record s.input).names := by
  refine ⟨perform_run r host (Registry.notMem_of_tryBegin accepted), ?_⟩
  intro kind target input timeout h
  obtain ⟨sound, -⟩ := Workflow.sound_of_passes passes decoded
  obtain ⟨i, s, run, hs, hrun, hmem⟩ := Sequential.exists_step_of_dispatch h
  have hstep := List.mem_of_getElem? hs
  obtain ⟨-, -, -, hresolve⟩ := (Sequential.follows_of_getElem? r host hs hrun).sent_of_dispatch hmem
  exact ⟨not_occurs_resolve (sound s hstep) (regular s hstep) (unmarked i s run hs hrun) hresolve,
    s, hstep, Input.names_resolve hresolve⟩

/-- A text with a `$` before a token, and a reference of the older kind: both are filled. -/
theorem Runner.run_withholds_placeholders_filled :
    let host : Host := Host.steady fun
      | .context => .ok (.items [.ready { id := "page", value := .str "text", timestamp := 0 }])
      | .knowledge => .ok []
      | .sleep _ => ()
      | .dispatch _ _ _ _ => .ok (.ready { success := true })
    let input : Fields :=
      [("q", .str "for $${page} and ${other.x}!"),
        ("old", .record [("type", .str "data_point"), ("dataPointId", .str "page")])]
    let json : Json := .record
      [("name", .str "Mail"), ("description", .str "Mails"),
        ("triggers", .list [.record [("type", .str "manual")]]),
        ("steps", .list [.record
          [("id", .str "step_a"), ("type", .str "task"), ("taskId", .str "mail"),
            ("input", .record input)]])]
    let s : Step := { id := "step_a", kind := .task, taskId := some "mail", input := input }
    let w : Workflow :=
      { name := "Mail", description := "Mails", triggers := [{ kind := .manual }], createdAt := 0,
        updatedAt := 0, steps := [s] }
    let r : Runner := { now := 0 }
    Validation.Passes json ∧ Workflow.decode 0 json = .accepted w ∧
      (Registry.empty.tryBegin (r.runId w)).1 = true ∧ (∀ s ∈ w.steps, s.Regular) ∧
      (∀ (i : Nat) s run, w.steps[i]? = some s → (Sequential.stepRuns r host w)[i]? = some run →
        ∀ leaf ∈ (Json.record s.input).templates "input", ∀ t ∈ Template.tokens leaf.2,
          ∀ text, run.before.resolveToken t = .ok text → Unmarked text.toList) ∧
      ∃ result requests, (r.run w).perform host Registry.empty [] =
          ⟨.ok result, Registry.empty, requests⟩ ∧
        (requests.filterMap fun
          | .dispatch _ _ input _ => some (input.texts "input")
          | _ => none) = [[("input.q", "for $text and !"), ("input.old", "text")]] := by
  intro host input json s w r
  have passes : Validation.Passes json := ⟨_, rfl, by decide +kernel⟩
  have decoded : Workflow.decode 0 json = .accepted w := rfl
  have accepted : (Registry.empty.tryBegin (r.runId w)).1 = true := by decide +kernel
  have regular : ∀ s ∈ w.steps, s.Regular := by
    intro s' hs'
    obtain rfl := List.mem_singleton.1 hs'
    refine ⟨by decide +kernel, ?_⟩
    rintro leaf hleaf ts - ⟨before, after, hfound, -⟩
    have hbrace : ∀ leaf ∈ (Json.record input).templates "input",
        Segment.char '{' ∉ Template.segments leaf.2.toList := by decide +kernel
    exact hbrace leaf hleaf (by simp [hfound])
  have unmarked : ∀ (i : Nat) s run, w.steps[i]? = some s →
      (Sequential.stepRuns r host w)[i]? = some run →
      ∀ leaf ∈ (Json.record s.input).templates "input", ∀ t ∈ Template.tokens leaf.2,
        ∀ text, run.before.resolveToken t = .ok text → Unmarked text.toList := by
    intro i s' run hs hrun
    cases i with
    | zero =>
      obtain rfl := Option.some.inj hs
      have hbefore : run.before = Sequential.initialStore r host := Sequential.before_eq r host hrun
      have hvalues : ∀ leaf ∈ (Json.record input).templates "input", ∀ t ∈ Template.tokens leaf.2,
          ∀ text ∈ ((Sequential.initialStore r host).resolveToken t).toOption,
            Unmarked text.toList := by decide +kernel
      rw [hbefore]
      exact fun leaf hleaf t ht text htext => hvalues leaf hleaf t ht text (by rw [htext]; rfl)
    | succ i => cases hs
  obtain ⟨hperform, -⟩ :=
    Runner.run_withholds_placeholders host passes decoded accepted regular unmarked
  exact ⟨passes, decoded, accepted, regular, unmarked, _, _, hperform, by decide +kernel⟩

end Run

end Runbook
