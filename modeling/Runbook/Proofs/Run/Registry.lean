import Mathlib.Data.String.Basic
import Runbook.Run.Registry

/-!
# Registries, whatever they are asked

A registry is asked one thing after the other, starting with no runs in flight. Main statement: `performAll_exact`. The
table of the registry holds nothing but running states, a workflow has a run in flight exactly if one more of its
runs was begun than was ended, and each thing that it is asked is answered as `Obeys` says.

The table takes a run out before it looks whether the run could end. That does no harm because of what one operation
keeps (`perform_table`): the table of a registry becomes the table of the registry afterwards, so it never holds a
state from which a run that is to end would be refused.
-/

namespace Runbook.Run

/-! ## What is asked and answered -/

/-- How a registry goes about what it is asked; `stateOf` gives the state of a workflow. -/
structure Obeys {σ : Type} (perform : Operation → σ → Answer × σ) (stateOf : String → σ → State) (s : σ) :
    Prop where
  begin : ∀ id, (perform (.begin id) s).1 = if stateOf id s = .running then .taken ⟨id⟩ else .begun
  tryBegin : ∀ id, (perform (.tryBegin id) s).1 = .tried (stateOf id s != .running)
  finish : ∀ id success, (perform (.finish id success) s).1 =
    if stateOf id s = .running then .found (.ofSuccess success) else .illegal ⟨.idle, .ofSuccess success⟩
  state : ∀ id, (perform (.state id) s).1 = .found (stateOf id s)
  runningIds : ∃ ids, (perform .runningIds s).1 = .listed ids ∧ ids.Pairwise (· < ·) ∧
    ∀ id, id ∈ ids ↔ stateOf id s = .running
  /-- What is not done leaves everything as it was. -/
  failing : ∀ op, (perform op s).1.isFailure = true → (perform op s).2 = s
  /-- The other workflows stay in the states that they are in. -/
  others : ∀ op id, op.id? ≠ some id → stateOf id (perform op s).2 = stateOf id s

/-- Was a run of the workflow begun? -/
def begins (id : String) : Operation × Answer → Bool
  | (.begin id', .begun) | (.tryBegin id', .tried true) => id' == id
  | _ => false

/-- Was a run of the workflow ended? -/
def ends (id : String) : Operation × Answer → Bool
  | (.finish id' _, .found _) => id' == id
  | _ => false

namespace Registry

variable {id : String} {r : Registry}

/-! ## One operation on a registry -/

theorem state_eq (id : String) (r : Registry) : r.state id = if id ∈ r.running then .running else .idle := by
  simp [state, isRunning]

theorem state_eq_running_iff : r.state id = .running ↔ id ∈ r.running := by
  by_cases h : id ∈ r.running <;> simp [state_eq, h]

theorem begin_of_mem (h : id ∈ r.running) : r.begin id = .error ⟨id⟩ := by
  simp [begin, h]

theorem begin_of_notMem (h : id ∉ r.running) : r.begin id = .ok (r.tryBegin id).2 := by
  simp [tryBegin, begin, h]

theorem forget_of_notMem (h : id ∉ r.running) : r.forget id = r := by
  ext1
  rw [running_forget, List.filter_eq_self]
  intro a ha
  simpa using fun e : a = id => h (e ▸ ha)

theorem finish_of_notMem (success : Bool) (h : id ∉ r.running) :
    r.finish id success = (.error ⟨.idle, .ofSuccess success⟩, r) := by
  have hs : r.state id = .idle := by rw [state_eq, if_neg h]
  rw [finish, hs, forget_of_notMem h]
  cases success <;> rfl

/-- Which workflows have a run in flight after an operation. -/
theorem mem_running_perform (op : Operation) (r : Registry) (id : String) :
    id ∈ (r.perform op).2.running ↔ match op with
      | .begin id' | .tryBegin id' => id ∈ r.running ∨ id = id'
      | .finish id' _ => id ∈ r.running ∧ id ≠ id'
      | _ => id ∈ r.running := by
  cases op with
  | begin id' =>
    by_cases h : id' ∈ r.running
    · simp only [perform, begin_of_mem h]
      exact ⟨.inl, fun hid => hid.elim (fun hid => hid) fun hid => hid ▸ h⟩
    · simp only [perform, begin_of_notMem h, (tryBegin_of_notMem h).2, List.mem_append, List.mem_singleton]
  | tryBegin id' =>
    by_cases h : id' ∈ r.running
    · simp only [perform, tryBegin_of_mem h]
      exact ⟨.inl, fun hid => hid.elim (fun hid => hid) fun hid => hid ▸ h⟩
    · simp only [perform, (tryBegin_of_notMem h).2, List.mem_append, List.mem_singleton]
  | finish id' success => exact mem_forget
  | state id' => rfl
  | runningIds => rfl

theorem pairwise_runningIds (r : Registry) : r.runningIds.Pairwise (· < ·) := by
  have hsorted : r.runningIds.Pairwise fun a b => (!decide (b < a)) = true := by
    apply List.pairwise_mergeSort
    · intro a b c hab hbc
      simp only [Bool.not_eq_true', decide_eq_false_iff_not, not_lt] at hab hbc ⊢
      exact hab.trans hbc
    · intro a b
      simp only [Bool.or_eq_true, Bool.not_eq_true', decide_eq_false_iff_not, not_lt]
      exact le_total a b
  have hnodup : r.runningIds.Nodup := (List.mergeSort_perm _ _).nodup_iff.2 r.nodup
  refine hsorted.imp₂ ?_ hnodup
  intro a b hab hne
  simp only [Bool.not_eq_true', decide_eq_false_iff_not, not_lt] at hab
  exact lt_of_le_of_ne hab hne

/-- A registry does what it is asked by the rules. -/
theorem obeys (r : Registry) : Obeys perform state r where
  begin id := by
    by_cases h : id ∈ r.running
    · simp [perform, begin_of_mem h, state_eq, h]
    · simp [perform, begin_of_notMem h, state_eq, h]
  tryBegin id := by
    by_cases h : id ∈ r.running
    · simp [perform, tryBegin_of_mem h, state_eq, h]
    · simp [perform, (tryBegin_of_notMem h).1, state_eq, h]
  finish id success := by
    by_cases h : id ∈ r.running
    · simp [perform, finish_of_mem success h, state_eq, h, Answer.ofTransition, State.ofSuccess]
    · simp [perform, finish_of_notMem success h, state_eq, h, Answer.ofTransition]
  state _ := rfl
  runningIds := ⟨_, rfl, pairwise_runningIds r, fun id => by rw [mem_runningIds, state_eq_running_iff]⟩
  failing op hfails := by
    cases op with
    | begin id =>
      by_cases h : id ∈ r.running
      · simp only [perform, begin_of_mem h]
      · simp [perform, begin_of_notMem h, Answer.isFailure] at hfails
    | tryBegin id =>
      by_cases h : id ∈ r.running
      · simp only [perform, tryBegin_of_mem h]
      · simp [perform, (tryBegin_of_notMem h).1, Answer.isFailure] at hfails
    | finish id success =>
      by_cases h : id ∈ r.running
      · simp [perform, finish_of_mem success h, Answer.ofTransition, Answer.isFailure] at hfails
      · simp only [perform, finish_of_notMem success h]
    | state id => rfl
    | runningIds => rfl
  others op id hother := by
    have hmem : id ∈ (r.perform op).2.running ↔ id ∈ r.running := by
      rw [mem_running_perform]
      cases op <;> simp_all [Operation.id?, eq_comm]
    rw [state_eq, state_eq]
    exact if_congr hmem rfl rfl

/-! ## The table of a registry -/

/-- The table that a registry is kept as. -/
def table (r : Registry) : Table :=
  ⟨r.running.map fun id => (id, .running)⟩

theorem lookup_table (id : String) (r : Registry) :
    r.table.entries.lookup id = if id ∈ r.running then some .running else none := by
  show List.lookup id (r.running.map fun id => (id, State.running)) = _
  induction r.running with
  | nil => rfl
  | cons first rest ih =>
    rw [List.map_cons, List.lookup_cons, ih]
    by_cases h : id = first
    · simp [h]
    · simp [beq_eq_false_iff_ne.2 h, h]

theorem state_table (id : String) (r : Registry) : r.table.state id = r.state id := by
  rw [Table.state, lookup_table, state_eq]
  by_cases h : id ∈ r.running <;> simp [h]

theorem set_table (h : id ∉ r.running) : r.table.set id .running = (r.tryBegin id).2.table := by
  rw [Table.set, lookup_table, if_neg h, table, table, (tryBegin_of_notMem h).2, List.map_append]
  rfl

theorem erase_table (id : String) (r : Registry) : r.table.erase id = (r.forget id).table := by
  rw [Table.erase, table, table, running_forget, List.filter_map]
  rfl

theorem runningIds_table (r : Registry) : r.table.runningIds = r.runningIds := by
  have hids : (r.table.entries.filter fun entry => entry.2 == .running).map Prod.fst = r.running := by
    rw [table, List.filter_eq_self.2 (by simp), List.map_map]
    exact List.map_id' r.running
  rw [Table.runningIds, hids, runningIds]

theorem begin_table (id : String) (r : Registry) :
    r.table.begin id = ((r.perform (.begin id)).1, (r.perform (.begin id)).2.table) := by
  rw [Table.begin, state_table, state_eq]
  by_cases h : id ∈ r.running
  · simp [perform, begin_of_mem h, h]
  · have hidle : transition .idle .running = .ok .running := rfl
    simp only [perform, begin_of_notMem h, if_neg h, reduceCtorEq, if_false, hidle, set_table h]

/-- The table of a registry goes the way of the registry. -/
theorem perform_table (op : Operation) (r : Registry) :
    r.table.perform op = ((r.perform op).1, (r.perform op).2.table) := by
  cases op with
  | begin id => exact begin_table id r
  | tryBegin id =>
    rw [Table.perform, begin_table]
    by_cases h : id ∈ r.running
    · simp only [perform, begin_of_mem h, tryBegin_of_mem h]
    · simp only [perform, begin_of_notMem h, (tryBegin_of_notMem h).1]
  | finish id success => rw [Table.perform, state_table, erase_table]; rfl
  | state id => rw [Table.perform, state_table]; rfl
  | runningIds => rw [Table.perform, runningIds_table]; rfl

theorem obeys_table (r : Registry) : Obeys Table.perform Table.state r.table where
  begin id := by rw [perform_table, state_table]; exact r.obeys.begin id
  tryBegin id := by rw [perform_table, state_table]; exact r.obeys.tryBegin id
  finish id success := by rw [perform_table, state_table]; exact r.obeys.finish id success
  state id := by rw [perform_table, state_table]; exact r.obeys.state id
  runningIds := by simpa only [perform_table, state_table] using r.obeys.runningIds
  failing op hfails := by
    rw [perform_table] at hfails ⊢
    exact congrArg table (r.obeys.failing op hfails)
  others op id hother := by
    rw [perform_table, state_table, state_table]
    exact r.obeys.others op id hother

/-! ## Any number of operations -/

theorem performAll_table (ops : List Operation) (r : Registry) :
    performAll Table.perform ops r.table =
      ((performAll perform ops r).1, (performAll perform ops r).2.table) := by
  induction ops generalizing r with
  | nil => rfl
  | cons op ops ih => simp only [performAll, perform_table, ih]

/-- How many runs a workflow has in flight. -/
def inFlight (id : String) (r : Registry) : Nat :=
  if r.state id = .running then 1 else 0

theorem inFlight_eq (id : String) (r : Registry) : r.inFlight id = if id ∈ r.running then 1 else 0 :=
  if_congr state_eq_running_iff rfl rfl

/-- One operation begins the run of a workflow or ends it, or leaves in flight what is. -/
theorem begins_perform (op : Operation) (r : Registry) (id : String) :
    (begins id (op, (r.perform op).1)).toNat + r.inFlight id =
      (ends id (op, (r.perform op).1)).toNat + (r.perform op).2.inFlight id := by
  cases op with
  | begin id' =>
    have hmem : id ∈ (r.perform (.begin id')).2.running ↔ id ∈ r.running ∨ id = id' := mem_running_perform _ r id
    simp only [inFlight_eq, hmem]
    by_cases h : id' ∈ r.running
    · by_cases hid : id = id'
      · simp [perform, begin_of_mem h, begins, ends, hid, h]
      · simp [perform, begin_of_mem h, begins, ends, hid]
    · by_cases hid : id = id'
      · simp [perform, begin_of_notMem h, begins, ends, hid, h]
      · simp [perform, begin_of_notMem h, begins, ends, hid, Ne.symm hid]
  | tryBegin id' =>
    have hmem : id ∈ (r.perform (.tryBegin id')).2.running ↔ id ∈ r.running ∨ id = id' := mem_running_perform _ r id
    simp only [inFlight_eq, hmem]
    by_cases h : id' ∈ r.running
    · by_cases hid : id = id'
      · simp [perform, tryBegin_of_mem h, begins, ends, hid, h]
      · simp [perform, tryBegin_of_mem h, begins, ends, hid]
    · by_cases hid : id = id'
      · simp [perform, (tryBegin_of_notMem h).1, begins, ends, hid, h]
      · simp [perform, (tryBegin_of_notMem h).1, begins, ends, hid, Ne.symm hid]
  | finish id' success =>
    have hmem : id ∈ (r.perform (.finish id' success)).2.running ↔ id ∈ r.running ∧ id ≠ id' :=
      mem_running_perform _ r id
    simp only [inFlight_eq, hmem]
    by_cases h : id' ∈ r.running
    · by_cases hid : id = id'
      · simp [perform, finish_of_mem success h, Answer.ofTransition, begins, ends, hid, h]
      · simp [perform, finish_of_mem success h, Answer.ofTransition, begins, ends, hid, Ne.symm hid]
    · by_cases hid : id = id'
      · simp [perform, finish_of_notMem success h, Answer.ofTransition, begins, ends, hid, h]
      · simp [perform, finish_of_notMem success h, Answer.ofTransition, begins, ends, hid]
  | state id' => rfl
  | runningIds => rfl

/-- However many operations there are, the runs that were begun were ended or are in flight. -/
theorem countP_begins (ops : List Operation) (r : Registry) (id : String) :
    (ops.zip (performAll perform ops r).1).countP (begins id) + r.inFlight id =
      (ops.zip (performAll perform ops r).1).countP (ends id) + (performAll perform ops r).2.inFlight id := by
  induction ops generalizing r with
  | nil => rfl
  | cons op ops ih =>
    have hfirst := begins_perform op r id
    have hrest := ih (r.perform op).2
    simp only [performAll, List.zip_cons_cons, List.countP_cons]
    cases hbegins : begins id (op, (r.perform op).1) <;> cases hends : ends id (op, (r.perform op).1)
    all_goals
      simp only [hbegins, hends, Bool.toNat_true, Bool.toNat_false, if_true, Bool.false_eq_true, if_false] at hfirst ⊢
      omega

/-- **A registry knows what is in flight, whatever it was asked.** After any number of operations on a registry that
began without runs: its table answers as it does and holds nothing but running states, one for each workflow; of the
runs of a workflow that were begun exactly one was not ended if the workflow has a run in flight, and else none; and
both the registry and its table go on by the rules. A run is refused exactly if the workflow has one in flight, the
end of a run exactly if it has none, nothing that is refused changes anything, what is done for one workflow leaves
the others as they are, and the workflows with a run in flight are listed in order. -/
theorem performAll_exact (ops : List Operation) :
    ∃ answers r t, performAll perform ops empty = (answers, r) ∧ performAll Table.perform ops .empty = (answers, t) ∧
      (∀ entry ∈ t.entries, entry.2 = .running) ∧ (t.entries.map Prod.fst).Nodup ∧
      (∀ id, t.state id = r.state id) ∧
      (∀ id, (ops.zip answers).countP (begins id) =
        (ops.zip answers).countP (ends id) + if r.state id = .running then 1 else 0) ∧
      Obeys perform state r ∧ Obeys Table.perform Table.state t := by
  refine ⟨_, (performAll perform ops empty).2, (performAll perform ops empty).2.table, rfl,
    performAll_table ops empty, ?_, ?_, fun id => state_table id _, fun id => ?_, obeys _, obeys_table _⟩
  · intro entry hentry
    obtain ⟨id, -, rfl⟩ := List.mem_map.1 hentry
    rfl
  · rw [table, List.map_map]
    exact (List.map_id' _).symm ▸ (performAll perform ops empty).2.nodup
  · exact countP_begins ops empty id

end Registry

/-- A run that was ended can be begun again, and a second end of it is refused. -/
example : performAll Table.perform
    [.begin "b", .tryBegin "a", .tryBegin "b", .finish "b" true, .finish "b" true, .runningIds] .empty =
      ([.begun, .tried true, .tried false, .found .completed, .illegal ⟨.idle, .completed⟩, .listed ["a"]],
        ⟨[("a", .running)]⟩) := by
  decide +kernel

end Runbook.Run
