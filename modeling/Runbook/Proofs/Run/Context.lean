import Runbook.Proofs.Run.DataPoints

/-!
# What a run takes from its context

* `Sequential.initialStore_of_items` — where all items of a context are data points or records, a run starts
  with those that are valid, and then with the knowledge base.
* `Context.Item.filterMap_point?_filter` — the malformed ones leave no trace.
* `Runner.initialStore_sifts` — so they are dropped one by one, and no data point is lost with them. The proviso
  is needed: `Runner.initialStore_spoiled` has an item that is no record, and loses the whole context.
-/

namespace Runbook

/-- Of data points in a row none is dropped whose id stands nowhere before it. -/
theorem DataPoint.mem_firstOfEach {before after : List DataPoint} {p : DataPoint}
    (first : ∀ q ∈ before, q.id ≠ p.id) : p ∈ firstOfEach (before ++ p :: after) := by
  induction before with
  | nil => exact List.mem_cons_self
  | cons q before ih =>
    rw [List.forall_mem_cons] at first
    refine List.mem_cons_of_mem q (List.mem_filter.2 ⟨ih first.2, ?_⟩)
    exact bne_iff_ne.2 (Ne.symm first.1)

namespace Context

/-- The malformed items of a list leave no trace. -/
theorem Item.filterMap_point?_filter (now : Int) (items : List Item) :
    (items.filter fun item => (item.point? now).isSome).filterMap (point? now) =
      items.filterMap (point? now) := by
  rw [List.filterMap_filter]
  refine List.filterMap_congr fun item _ => ?_
  cases item.point? now <;> rfl

/-- A valid item is a data point or a record. -/
theorem Item.isRecord_of_isSome {now : Int} {item : Item} (h : (item.point? now).isSome = true) :
    item.isRecord = true := by
  cases item with
  | ready p => rfl
  | raw json =>
    cases json with
    | record fields => rfl
    | _ => cases h

end Context

namespace Run

open Context (Item)
open DataPoint (firstOfEach)

variable {r : Runner} {host : Host} {items : List Item}

namespace Sequential

/-- A run starts with the valid data points of its context, if all its items are data points or records. -/
theorem initialStore_of_items (gathered : host [] .context = .ok (.items items))
    (records : ∀ item ∈ items, item.isRecord = true) :
    initialStore r host = Store.empty.addAll
      (items.filterMap (Item.point? r.now) ++ knowledgePoints r.now (host [.context] .knowledge)) := by
  have hclean : (Context.Gathered.items items).isClean = true := List.all_eq_true.2 records
  rw [initialStore, gathered_eq, gathered, Context.contributed, if_pos hclean]
  rfl

/-- A run starts without its context, if one of its items is neither a data point nor a record. -/
theorem initialStore_of_spoiled (gathered : host [] .context = .ok (.items items))
    (spoiled : ∃ item ∈ items, item.isRecord = false) :
    initialStore r host = Store.empty.addAll (knowledgePoints r.now (host [.context] .knowledge)) := by
  have hclean : (Context.Gathered.items items).isClean = false := List.all_eq_false.2 (by simpa using spoiled)
  rw [initialStore, gathered_eq, gathered, Context.contributed, hclean]
  rfl

/-- The data points that a run starts with are the first of those that it ends with. -/
theorem prefix_dataPoints (r : Runner) (host : Host) (w : Workflow) :
    (initialStore r host).points <+: (result r host w).dataPoints := by
  show _ <+: (finalStore (initialStore r host) (stepRuns r host w)).points
  rw [stepRuns, finalStore_steps]
  exact Store.prefix_addAll _ _

end Sequential

/-- **Malformed records are dropped one by one.** From a context whose items are data points or records, a run
takes every one that is valid, in order, and of several with one id the first; the malformed ones might as well not
be there. What a run takes it has to its end. An item that is neither a data point nor a record takes all the
others with it. -/
theorem Runner.initialStore_sifts (gathered : host [] .context = .ok (.items items))
    (registry : Registry) :
    let start := (r.initialStore.perform host registry []).value
    let valid := items.filterMap (Item.point? r.now)
    let known := Sequential.knowledgePoints r.now (host [.context] .knowledge)
    ((∀ item ∈ items, item.isRecord = true) →
      start.points = firstOfEach (valid ++ known) ∧
      (∀ before p after, valid = before ++ p :: after → (∀ q ∈ before, q.id ≠ p.id) → p ∈ start.points) ∧
      ∀ host' : Host,
        host' [] .context = .ok (.items (items.filter fun item => (item.point? r.now).isSome)) →
        host' [.context] .knowledge = host [.context] .knowledge →
        (r.initialStore.perform host' registry []).value = start) ∧
    ((∃ item ∈ items, item.isRecord = false) → start.points = firstOfEach known) ∧
    ∀ w : Workflow, (registry.tryBegin (r.runId w)).1 = true →
      ∃ result, ((r.run w).perform host registry []).value = .ok result ∧
        start.points <+: result.dataPoints := by
  intro start valid known
  have hstart : start = Sequential.initialStore r host := by
    show (r.initialStore.perform host registry []).value = _
    rw [perform_initialStore]
  rw [hstart]
  refine ⟨fun records => ?_, fun spoiled => ?_, fun w accepted => ?_⟩
  · have hinitial : Sequential.initialStore r host = Store.empty.addAll (valid ++ known) :=
      Sequential.initialStore_of_items gathered records
    have hpoints : (Sequential.initialStore r host).points = firstOfEach (valid ++ known) := by
      rw [hinitial, Store.points_addAll_empty]
    refine ⟨hpoints, fun before p after hvalid first => ?_, fun host' gathered' known' => ?_⟩
    · rw [hpoints, hvalid, List.append_assoc]
      exact DataPoint.mem_firstOfEach first
    · rw [perform_initialStore, hinitial]
      show Sequential.initialStore r host' = _
      rw [Sequential.initialStore_of_items gathered' fun item hitem =>
        Item.isRecord_of_isSome (List.mem_filter.1 hitem).2, Item.filterMap_point?_filter, known']
  · rw [Sequential.initialStore_of_spoiled gathered spoiled, Store.points_addAll_empty]
  · exact ⟨_, by rw [perform_run r host (Registry.notMem_of_tryBegin accepted)],
      Sequential.prefix_dataPoints r host w⟩

/-- A record without an id between two that are valid, and one whose id is taken. -/
theorem Runner.initialStore_sifts_nameless :
    let record (id : String) (value : Json) : Item :=
      .raw (.record [("id", .str id), ("value", value), ("timestamp", .int 1)])
    let items := [record "sel" (.str "text"), .raw (.record [("name", .int 5)]), record "sel" .null,
      .ready { id := "page", timestamp := 2 }]
    let host : Host := Host.steady fun
      | .context => .ok (.items items)
      | .knowledge => .ok []
      | .sleep _ => ()
      | .dispatch _ _ _ _ => .ok (.ready { success := true })
    let r : Runner := { now := 0 }
    host [] .context = .ok (.items items) ∧ (∀ item ∈ items, item.isRecord = true) ∧
      (r.initialStore.perform host Registry.empty []).value.points =
        [{ id := "sel", value := .str "text", timestamp := 1 }, { id := "page", timestamp := 2 }] := by
  intro record items host r
  have gathered : host [] .context = .ok (.items items) := rfl
  have records : ∀ item ∈ items, item.isRecord = true := by simp [items, record, Item.isRecord]
  obtain ⟨sifts, -⟩ := Runner.initialStore_sifts (r := r) gathered Registry.empty
  exact ⟨gathered, records, (sifts records).1.trans rfl⟩

/-- A number between two valid records: neither of them is there when the run starts. -/
theorem Runner.initialStore_spoiled :
    let items : List Item :=
      [.ready { id := "sel", timestamp := 1 }, .raw (.int 5), .ready { id := "page", timestamp := 2 }]
    let host : Host := Host.steady fun
      | .context => .ok (.items items)
      | .knowledge => .ok []
      | .sleep _ => ()
      | .dispatch _ _ _ _ => .ok (.ready { success := true })
    let r : Runner := { now := 0 }
    (items.filterMap (Item.point? r.now)).map DataPoint.id = ["sel", "page"] ∧
      (r.initialStore.perform host Registry.empty []).value.points = [] :=
  ⟨rfl, rfl⟩

end Run

end Runbook
