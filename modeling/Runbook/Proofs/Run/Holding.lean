import Runbook.Proofs.Run.Performance
import Runbook.Run.Turns

/-!
# What a run holds

* `Process.Holds` — a process leaves the registry alone, and holds the same runs whenever it asks for
  something. All of what a run does between its start and its end is like that (`holds_body`): neither a step
  nor a source has anything to do with the registry.
* `Process.Within` — a process is in the run of a workflow: it holds that run and no other whenever it asks,
  until it leaves it; then it asks for nothing more and comes to a result, provided that the run was there
  to be left. An accepted run is like that from its start on (`within_run`).
-/

namespace Runbook.Run

namespace Process

variable {α β ε : Type} {held : List String} {id : String}

/-! ## Holding runs -/

/-- Does a process leave the registry alone, and hold just the runs in `held` whenever it asks? -/
def Holds (held : List String) : Process α → Prop
  | done _ => True
  | tell _ next => next.Holds held
  | enter _ _ => False
  | leave _ _ _ => False
  | ask _ held' next => held' = held ∧ ∀ answer, (next answer).Holds held

@[simp] theorem holds_note (record : Log.Record) : (note record).Holds held := trivial

@[simp] theorem holds_gather : gather.Holds [] := ⟨rfl, fun _ => trivial⟩

@[simp] theorem holds_listKnowledge : listKnowledge.Holds [] := ⟨rfl, fun _ => trivial⟩

@[simp] theorem holds_sleep (seconds : Float) : (sleep seconds).Holds [] := ⟨rfl, fun _ => trivial⟩

@[simp] theorem holds_dispatch (kind : Step.Kind) (target : String) (input : Json)
    (timeout : Option Float) : (dispatch kind target input timeout).Holds [] :=
  ⟨rfl, fun _ => trivial⟩

theorem holds_bind {p : Process α} {f : α → Process β} (hp : p.Holds held)
    (hf : ∀ a, (f a).Holds held) : (p >>= f).Holds held := by
  show (p.bind f).Holds held
  induction p with
  | done a => exact hf a
  | tell record next ih => exact ih hp
  | enter id next ih => exact hp.elim
  | leave id success next ih => exact hp.elim
  | ask request held' next ih => exact ⟨hp.1, fun answer => ih answer (hp.2 answer)⟩

theorem holds_bindT {x : ExceptT ε Process α} {f : α → ExceptT ε Process β} (hx : x.run.Holds held)
    (hf : ∀ a, (f a).run.Holds held) : (x >>= f).run.Holds held := by
  refine holds_bind hx fun a => ?_
  cases a with
  | ok a => exact hf a
  | error e => trivial

theorem holds_lift {p : Process α} (hp : p.Holds held) :
    (liftM p : ExceptT ε Process α).run.Holds held :=
  holds_bind hp fun _ => trivial

theorem holds_tellAll (records : List Log.Record) : (tellAll records).Holds held := by
  induction records with
  | nil => trivial
  | cons record records ih => exact ih

@[simp] theorem holds_ofLogged (x : Logged α) : (ofLogged x).Holds held :=
  holds_bind (holds_tellAll x.records) fun _ => trivial

theorem holds_holding {p : Process α} (h : p.Holds held) : (p.holding id).Holds (held ++ [id]) := by
  induction p with
  | done a => trivial
  | tell record next ih => exact ih h
  | enter id' next ih => exact h.elim
  | leave id' success next ih => exact h.elim
  | ask request held' next ih => exact ⟨by rw [h.1], fun answer => ih answer (h.2 answer)⟩

/-! ## Being in a run -/

/-- Does a process do nothing but write records until it comes to a result? -/
def Settles : Process (Except ε α) → Prop
  | done outcome => outcome.isOk = true
  | tell _ next => next.Settles
  | enter _ _ => False
  | leave _ _ _ => False
  | ask _ _ _ => False

/-- Is a process in the run of a workflow? It holds that run and no other whenever it asks for something,
until it leaves it and settles. -/
def Within (id : String) : Process (Except ε α) → Prop
  | done _ => False
  | tell _ next => next.Within id
  | enter _ _ => False
  | leave id' _ next => id' = id ∧ ∀ state, (next (.ok state)).Settles
  | ask _ held next => held = [id] ∧ ∀ answer, (next answer).Within id

theorem within_bind {p : Process α} {f : α → Process (Except ε β)} (hp : p.Holds [id])
    (hf : ∀ a, (f a).Within id) : (p >>= f).Within id := by
  show (p.bind f).Within id
  induction p with
  | done a => exact hf a
  | tell record next ih => exact ih hp
  | enter id' next ih => exact hp.elim
  | leave id' success next ih => exact hp.elim
  | ask request held next ih => exact ⟨hp.1, fun answer => ih answer (hp.2 answer)⟩

theorem settles_cases {p : Process (Except ε α)} (h : p.Settles) :
    ∃ a, ∀ registry, p.proceed registry = (⟨.ended (.ok a), []⟩, registry) ∧
      ∀ host past, p.perform host registry past = ⟨.ok a, registry, past⟩ := by
  induction p with
  | done outcome =>
    cases outcome with
    | error error => cases h
    | ok a => exact ⟨a, fun _ => ⟨rfl, fun _ _ => rfl⟩⟩
  | tell record next ih => exact ih h
  | enter id next ih => exact h.elim
  | leave id success next ih => exact h.elim
  | ask request held next ih => exact h.elim

/-- **A process in a run comes either to its next request or to its result**, and which of them it is, and
what it is, does not depend on the registry, if only the run is there. -/
theorem within_cases {p : Process (Except ε α)} (h : p.Within id) :
    (∃ request next, (∀ answer, (next answer).Within id) ∧ ∀ registry,
      p.proceed registry = (⟨.waiting request [id] next, [.asked request]⟩, registry) ∧
      ∀ host past, p.perform host registry past =
        (next (host past request)).perform host registry (past ++ [request])) ∨
    (∃ a state, ∀ registry : Registry, id ∈ registry.running →
      p.proceed registry = (⟨.ended (.ok a), [.left id (.ok state)]⟩, registry.forget id) ∧
      ∀ host past, p.perform host registry past = ⟨.ok a, registry.forget id, past⟩) := by
  induction p with
  | done outcome => exact h.elim
  | tell record next ih => exact ih h
  | enter id' next ih => exact h.elim
  | leave id' success next ih =>
    obtain ⟨rfl, hnext⟩ := h
    let state : State := if success then .completed else .failed
    obtain ⟨a, ha⟩ := settles_cases (hnext state)
    refine .inr ⟨a, state, fun registry hmem => ?_⟩
    obtain ⟨hproceed, hperform⟩ := ha (registry.forget id')
    have hfinish : registry.finish id' success = (.ok state, registry.forget id') :=
      Registry.finish_of_mem success hmem
    constructor
    · simp only [proceed, hfinish, hproceed]
    · intro host past
      rw [perform_leave, hfinish]
      exact hperform host past
  | ask request held next ih =>
    obtain ⟨rfl, hnext⟩ := h
    exact .inl ⟨request, next, hnext, fun _ => ⟨rfl, fun _ _ => rfl⟩⟩

end Process

namespace Runner

open Process

variable (r : Runner) (retry : Retry) (fields : Fields) (kind : Step.Kind) (target : String)
  (input : Json) (s : Step) (store : Store)

theorem holds_waitFor (n : Nat) : (waitFor retry fields n).run.Holds [] := by
  unfold waitFor
  split
  · trivial
  · refine holds_bindT (holds_lift (holds_note _)) fun _ => ?_
    split
    · exact holds_lift (holds_sleep _)
    · trivial

theorem holds_attempt (n : Nat) : (r.attempt retry fields kind target input n).run.Holds [] := by
  unfold attempt
  split
  · refine holds_bindT (holds_waitFor retry fields n) fun _ => ?_
    exact holds_bindT (holds_lift (holds_dispatch ..)) fun _ => trivial
  · exact holds_bindT (holds_lift (holds_dispatch ..)) fun _ => trivial

theorem holds_dispatchFrom (n left : Nat) :
    (r.dispatchFrom retry fields kind target input n left).run.Holds [] := by
  induction left generalizing n with
  | zero => exact holds_bindT (holds_attempt ..) fun _ => trivial
  | succ left ih =>
    refine holds_bindT (holds_attempt ..) fun result => ?_
    rcases result with ⟨response, none | error⟩
    · trivial
    · exact ih (n + 1)

theorem holds_waitDelay (delay : Option Float) : (r.waitDelay fields delay).Holds [] := by
  unfold waitDelay
  split
  · refine holds_bind ?_ fun _ => holds_sleep _
    unfold clampDelay
    split
    · split
      · exact holds_bind (holds_note _) fun _ => trivial
      · trivial
    · trivial
  · trivial

theorem holds_addOutput (response : Option Response) : (r.addOutput s response store).Holds [] := by
  unfold addOutput
  split
  · exact holds_ofLogged _
  · trivial

theorem holds_conclude (d : Dispatched) : (r.conclude fields s d store).Holds [] := by
  unfold conclude
  split
  · exact holds_bind (holds_addOutput ..) fun _ => holds_bind (holds_note _) fun _ => trivial
  · exact holds_bind (holds_note _) fun _ => trivial

theorem holds_runReady : (r.runReady fields s store).run.Holds [] := by
  unfold runReady
  refine holds_bindT (holds_lift (holds_waitDelay ..)) fun _ => ?_
  split
  · exact holds_bindT (holds_lift (holds_bind (holds_note _) fun _ => trivial)) fun _ => trivial
  · refine holds_bindT (holds_bind (holds_ofLogged _) fun _ => trivial) fun input => ?_
    exact holds_bindT (holds_dispatchFrom ..) fun _ => holds_lift (holds_conclude ..)

theorem holds_runStep (id : String) : (r.runStep id s store).Holds [] := by
  refine holds_bind (holds_ofLogged _) fun holds => ?_
  split
  · refine holds_bind (holds_runReady ..) fun result => ?_
    cases result with
    | ok outcome => trivial
    | error error => exact holds_bind (holds_bind (holds_note _) fun _ => trivial) fun _ => trivial
  · exact holds_bind (holds_bind (holds_note _) fun _ => trivial) fun _ => trivial

theorem holds_runSteps (id : String) (steps : List Step) : (r.runSteps id steps store).Holds [] := by
  induction steps generalizing store with
  | nil => trivial
  | cons s rest ih =>
    exact holds_bind (holds_runStep ..) fun _ => holds_bind (ih _) fun _ => trivial

theorem holds_initialStore : r.initialStore.Holds [] := by
  have hcontext : r.contextPoints.Holds [] := by
    refine holds_bind holds_gather fun gathered => ?_
    split
    · exact holds_bind (holds_note _) fun _ => trivial
    · refine holds_bind (holds_ofLogged _) fun points => ?_
      split
      · trivial
      · exact holds_bind (holds_note _) fun _ => trivial
  have hknowledge : r.knowledgePoints.Holds [] := by
    refine holds_bind holds_listKnowledge fun entries => ?_
    split
    · trivial
    · exact holds_bind (holds_note _) fun _ => trivial
  refine holds_bind hcontext fun _ => holds_bind hknowledge fun _ => ?_
  exact holds_bind (holds_ofLogged _) fun _ => holds_bind (holds_note _) fun _ => trivial

/-- What a run does between its start and its end leaves the registry alone. -/
theorem holds_body (id : String) (w : Workflow) : (r.body id w).Holds [] := by
  refine holds_bind r.holds_initialStore fun _ => holds_bind (holds_tellAll _) fun _ => ?_
  exact holds_bind (holds_runSteps ..) fun _ => trivial

/-- The result of a run that is not accepted. -/
def rejection (id : String) : Result :=
  { workflowId := id, success := false, error := some s!"Workflow already running: {id}" }

/-- A run asks the registry first. It is within its run if it is accepted, and otherwise comes to its
rejection at once. -/
theorem run_eq (w : Workflow) :
    ∃ next, r.run w = .enter (r.runId w) next ∧ (next true).Within (r.runId w) ∧
      ∃ record, next false = .tell record (.done (.ok (rejection (r.runId w)))) := by
  refine ⟨_, rfl, ?_, _, rfl⟩
  refine within_bind (holds_note _) fun _ => ?_
  refine within_bind (holds_holding (r.holds_body _ w)) fun result => ?_
  exact ⟨rfl, fun _ => rfl⟩

end Runner

end Runbook.Run
