import Runbook.Proofs.Run.Steps
import Runbook.Proofs.Token.Grammar

/-!
# What can influence a step

A step depends on the data points before it only through the values that its references stand for, as they are
listed without any data points at hand.

* `Store.resolveText_congr` — a text, through the tokens in it;
* `Input.resolve_congr` — an input, through its texts with tokens;
* `Condition.holdsFor_congr` — a condition, of which only the part between the blanks at its ends is resolved:
  the tokens are the same;
* `Run.Sequential.step_congr` — a step, through its condition and its input;
* `Run.references_determine` — all of this by the references that are listed.
-/

namespace Runbook

/-- Have two collections of data points the same values, or both none, for these ids? -/
def Store.AgreeOn (ids : List String) (s s' : Store) : Prop :=
  ∀ id ∈ ids, (s.lookup id).map DataPoint.value = (s'.lookup id).map DataPoint.value

/-- The ids that a text refers to. -/
def Template.referencedIds (text : String) : List String :=
  (references text).map Token.dataPointId

/-- The ids that the texts with tokens in a value refer to. -/
def Json.referencedIds (value : Json) : List String :=
  (value.templates "").flatMap fun leaf => Template.referencedIds leaf.2

variable {s s' : Store}

namespace Template

/-- The references of a text have the ids of its tokens. -/
theorem referencedIds_eq (text : String) : referencedIds text = (tokens text).map Token.dataPointId := by
  rw [referencedIds, references, List.map_map]
  refine List.map_congr_left fun t _ => ?_
  rw [Function.comp_apply]
  split <;> rfl

/-- A text has all references that it has without the blanks at its ends. -/
theorem referencedIds_trim (text : String) : referencedIds (Text.trim text) ⊆ referencedIds text := by
  rw [referencedIds_eq, referencedIds_eq]
  refine List.map_subset _ fun t ht => ?_
  rw [mem_tokens_iff, Text.trim, String.toList_ofList] at ht
  exact mem_tokens_iff.2 ⟨ht.1, ht.2.trans (Text.trimChars_infix _)⟩

end Template

namespace Store

theorem AgreeOn.mono {ids ids' : List String} (h : AgreeOn ids s s') (hsub : ids' ⊆ ids) :
    AgreeOn ids' s s' :=
  fun id hid => h id (hsub hid)

/-! ## Texts -/

theorem resolveToken_congr {t : Token}
    (h : (s.lookup t.dataPointId).map DataPoint.value = (s'.lookup t.dataPointId).map DataPoint.value) :
    s.resolveToken t = s'.resolveToken t := by
  rw [resolveToken, resolveToken]
  cases hs : s.lookup t.dataPointId <;> cases hs' : s'.lookup t.dataPointId <;>
    simp only [hs, hs', Option.map_some, Option.map_none, reduceCtorEq, Option.some.injEq] at h
  · rfl
  · simp only [h]

theorem resolveTokens_congr {ts : List Token} (h : ∀ t ∈ ts, s.resolveToken t = s'.resolveToken t) :
    (s.resolveTokens ts).outcome.value = (s'.resolveTokens ts).outcome.value := by
  induction ts with
  | nil => rfl
  | cons t ts ih =>
    rw [List.forall_mem_cons] at h
    exact Attempt.value_bind_congr h.1 fun _ => Attempt.value_bind_congr (ih h.2) fun _ => rfl

/-- A text depends on the data points that it refers to. -/
theorem resolveText_congr {text : String} (h : AgreeOn (Template.referencedIds text) s s') :
    (s.resolveText text).outcome.value = (s'.resolveText text).outcome.value := by
  refine Attempt.value_bind_congr (resolveTokens_congr fun t ht => resolveToken_congr (h _ ?_)) fun _ => rfl
  rw [Template.referencedIds_eq]
  exact List.mem_map_of_mem (List.mem_eraseDups.1 ht)

end Store

/-! ## Inputs -/

namespace Input

mutual

/-- An input depends on its texts with tokens. -/
theorem resolve_congr (path : String) : ∀ {input : Input},
    (∀ leaf ∈ input.templates path, (s.resolveText leaf.2).outcome.value = (s'.resolveText leaf.2).outcome.value) →
    (input.resolve s).outcome.value = (input.resolve s').outcome.value
  | .literal _, _ => rfl
  | .template text, h =>
    Attempt.value_bind_congr (h (path, text) (List.mem_singleton_self _)) fun _ => rfl
  | .record _, h => Attempt.value_bind_congr (resolveFields_congr path h) fun _ => rfl
  | .list _, h => Attempt.value_bind_congr (resolveItems_congr path 0 h) fun _ => rfl

theorem resolveItems_congr (path : String) (position : Nat) : ∀ {items : List Input},
    (∀ leaf ∈ itemTemplates path position items,
      (s.resolveText leaf.2).outcome.value = (s'.resolveText leaf.2).outcome.value) →
    (resolveItems s items).outcome.value = (resolveItems s' items).outcome.value
  | [], _ => rfl
  | _ :: _, h => by
    rw [itemTemplates, List.forall_mem_append] at h
    exact Attempt.value_bind_congr (resolve_congr _ h.1) fun _ =>
      Attempt.value_bind_congr (resolveItems_congr path _ h.2) fun _ => rfl

theorem resolveFields_congr (path : String) : ∀ {fields : List (String × Input)},
    (∀ leaf ∈ fieldTemplates path fields,
      (s.resolveText leaf.2).outcome.value = (s'.resolveText leaf.2).outcome.value) →
    (resolveFields s fields).outcome.value = (resolveFields s' fields).outcome.value
  | [], _ => rfl
  | (_, _) :: _, h => by
    rw [fieldTemplates, List.forall_mem_append] at h
    exact Attempt.value_bind_congr (resolve_congr _ h.1) fun _ =>
      Attempt.value_bind_congr (resolveFields_congr path h.2) fun _ => rfl

end

end Input

theorem Json.resolve_congr {value : Json} (h : Store.AgreeOn value.referencedIds s s') :
    (value.resolve s).outcome.value = (value.resolve s').outcome.value :=
  Input.resolve_congr "" fun leaf hleaf => Store.resolveText_congr fun id hid =>
    h id (List.mem_flatMap.2 ⟨leaf, hleaf, hid⟩)

/-! ## Conditions -/

theorem Condition.holdsFor_congr {condition : String}
    (h : Store.AgreeOn (Template.referencedIds condition) s s') :
    (holdsFor s (some condition)).value = (holdsFor s' (some condition)).value := by
  have htext := Store.resolveText_congr (h.mono (Template.referencedIds_trim condition))
  rw [holdsFor, holdsFor, holds, holds]
  split
  · rfl
  · have hcondition : (Json.ofText? (some condition)).displayBare = condition := rfl
    rw [Logged.value_bind, Logged.value_bind, hcondition, htext]

/-! ## Steps -/

namespace Run

/-- The ids that the input and the condition of a step refer to. -/
def stepReferences (step : Step) : List String :=
  Json.referencedIds (.record step.input) ++ (step.condition.map Template.referencedIds).getD []

variable (r : Runner) (host : Host) (past : List Request)

/-- A step does and comes to the same before data points that its references do not tell apart. -/
theorem Sequential.step_congr {step : Step} (h : Store.AgreeOn (stepReferences step) s s') :
    (Sequential.step r host step s past).requests = (Sequential.step r host step s' past).requests ∧
      (Sequential.step r host step s past).result = (Sequential.step r host step s' past).result := by
  have hinput := Json.resolve_congr (h.mono (List.subset_append_left _ _))
  have hcondition : (Condition.holdsFor s step.condition).value =
      (Condition.holdsFor s' step.condition).value := by
    cases hstep : step.condition with
    | none => rfl
    | some condition =>
      refine Condition.holdsFor_congr (h.mono ?_)
      rw [stepReferences, hstep]
      exact List.subset_append_right _ _
  rw [Sequential.step, Sequential.step, hcondition, hinput]
  split
  · exact ⟨rfl, rfl⟩
  · split
    · exact ⟨rfl, rfl⟩
    · split
      · exact ⟨rfl, rfl⟩
      · split <;> exact ⟨rfl, rfl⟩

/-- **Only what is referred to has influence.** Two collections of data points with the same values for the
references of a value, of a condition or of a step resolve the value to the same, decide the condition alike,
and let the step ask for the same and come to the same result. -/
theorem references_determine (s s' : Store) :
    (∀ value : Json, Store.AgreeOn value.referencedIds s s' →
      (value.resolve s).outcome.value = (value.resolve s').outcome.value) ∧
    (∀ condition : String, Store.AgreeOn (Template.referencedIds condition) s s' →
      (Condition.holdsFor s (some condition)).value = (Condition.holdsFor s' (some condition)).value) ∧
    ∀ (r : Runner) (host : Host) (registry : Registry) (past : List Request) (id : String) (step : Step),
      Store.AgreeOn (stepReferences step) s s' →
      let run := (r.runStep id step s).perform host registry past
      let run' := (r.runStep id step s').perform host registry past
      run.requests = run'.requests ∧ run.value.1 = run'.value.1 := by
  refine ⟨fun _ => Json.resolve_congr, fun _ => Condition.holdsFor_congr, ?_⟩
  intro r host registry past id step h
  obtain ⟨hrequests, hresult⟩ := Sequential.step_congr r host past h
  simp only [Runner.perform_runStep, hrequests, hresult, and_self]

/-- A data point that nothing refers to, and the name and the time of one that is referred to, do not matter;
the reference may be by another id. -/
theorem references_determine_noise :
    let text : Json := .record [("text", .str "a")]
    let s := Store.empty.add { id := "sel", value := text, timestamp := 1 }
    let s' := (Store.empty.add { id := "noise", value := .str "${sel}", timestamp := 2 }).add
      { id := "sel", name := "Selection", value := text, timestamp := 3 }
    let condition := "${sel_1700000000000.text} == \"a\""
    let step : Step :=
      { id := "a", kind := .task, taskId := some "t", condition := some condition
        input := [("x", .str "${sel.text}")] }
    let r : Runner := { now := 0 }
    stepReferences step = ["sel", "sel_1700000000000"] ∧ Store.AgreeOn (stepReferences step) s s' ∧
      (Json.resolve s' (.record step.input)).outcome.value = .ok (.record [("x", .str "a")]) ∧
      (Condition.holdsFor s' (some condition)).value = true ∧
      ((r.runStep "w" step s').perform Host.down Registry.empty []).requests =
        [.dispatch .task "t" (.record [("x", .str "a")]) none] := by
  intro text s s' condition step r
  have hids : stepReferences step = ["sel", "sel_1700000000000"] := by decide
  have agree : Store.AgreeOn (stepReferences step) s s' := by
    rw [hids]
    exact List.forall_mem_cons.2 ⟨rfl, List.forall_mem_singleton.2 rfl⟩
  have hinput : (Json.resolve s (.record step.input)).outcome.value = .ok (.record [("x", .str "a")]) := rfl
  have hcondition : (Condition.holdsFor s (some condition)).value = true := by decide
  have hrequests : ((r.runStep "w" step s).perform Host.down Registry.empty []).requests =
      [.dispatch .task "t" (.record [("x", .str "a")]) none] := by
    rw [Runner.perform_runStep, Sequential.step, hcondition, hinput]
    rfl
  obtain ⟨hvalues, hconditions, hsteps⟩ := references_determine s s'
  refine ⟨hids, agree, ?_, ?_, ?_⟩
  · exact (hvalues (.record step.input) (agree.mono (List.subset_append_left _ _))).symm.trans hinput
  · exact (hconditions condition (agree.mono (List.subset_append_right _ _))).symm.trans hcondition
  · exact (hsteps r Host.down Registry.empty [] "w" step agree).1.symm.trans hrequests

end Run

end Runbook
