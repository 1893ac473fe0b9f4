import Runbook.DataPoint.Store

/-!
# What a store comes to hold

* `firstOfEach` — of data points in a row, the first with each id; `nodup_firstOfEach` says that no id is
  left twice.
* `points_addAll` — adding data points appends those of them that are the first with their id and have an id
  that was not there before. So a store only grows (`prefix_addAll`).
* `points_addAll_empty` — a store filled from nothing holds the first data point of each id, in order.
* `filter_id_eq`, `get?_of_mem` — a data point is the only one with its id, and is found under it.
* `mem_addAll_of_nodup` — none of several data points with ids of their own is lost.
-/

namespace Runbook

/-- The data points that are the first with their id. -/
def DataPoint.firstOfEach : List DataPoint → List DataPoint
  | [] => []
  | p :: ps => p :: (firstOfEach ps).filter fun q => q.id != p.id

namespace Store

open DataPoint (firstOfEach)

variable (s : Store) (p : DataPoint) (ps qs : List DataPoint)

@[simp] theorem addAll_nil : s.addAll [] = s := rfl

@[simp] theorem addAll_cons : s.addAll (p :: ps) = (s.add p).addAll ps := rfl

theorem addAll_append : s.addAll (ps ++ qs) = (s.addAll ps).addAll qs :=
  List.foldl_append

@[simp] theorem contains_eq_true {id : String} {s : Store} : s.contains id = true ↔ id ∈ s.ids := by
  rw [contains, List.contains_iff_mem]

theorem ids_add {p : DataPoint} {s : Store} (h : p.id ∉ s.ids) : (s.add p).ids = s.ids ++ [p.id] := by
  rw [ids, add_points h, List.map_append]
  rfl

/-- What is new of some data points comes at the end, in order. -/
theorem points_addAll :
    (s.addAll ps).points = s.points ++ (firstOfEach ps).filter fun p => !s.contains p.id := by
  induction ps generalizing s with
  | nil => simp [firstOfEach]
  | cons p ps ih =>
    rw [addAll_cons, ih, firstOfEach, List.filter_cons, List.filter_filter]
    by_cases h : p.id ∈ s.ids
    · rw [add_dup h, if_neg (by simpa using h)]
      congr 1
      refine List.filter_congr fun q _ => ?_
      by_cases hq : q.id = p.id
      · simp [hq, h, contains]
      · simp [hq]
    · rw [add_points h, if_pos (by simpa [contains] using h), List.append_assoc, List.singleton_append]
      congr 2
      refine List.filter_congr fun q _ => ?_
      rw [contains, ids_add h]
      by_cases hq : q.id = p.id <;> simp [hq, contains]

theorem prefix_addAll : s.points <+: (s.addAll ps).points := by
  rw [points_addAll]
  exact List.prefix_append _ _

theorem points_addAll_empty : (empty.addAll ps).points = firstOfEach ps := by
  rw [points_addAll]
  simp [empty, contains, ids]

variable {s p ps}

/-- Of the data points of a store only one has the id of one that is there. -/
theorem filter_id_eq (h : p ∈ s.points) : (s.points.filter fun q => q.id == p.id) = [p] := by
  obtain ⟨before, after, hpoints⟩ := List.append_of_mem h
  have hnodup := s.nodup
  rw [hpoints, List.map_append, List.map_cons, List.nodup_append, List.nodup_cons] at hnodup
  obtain ⟨-, ⟨hafter, -⟩, hbefore⟩ := hnodup
  have hbefore : (before.filter fun q => q.id == p.id) = [] := by
    refine List.filter_eq_nil_iff.2 fun q hq => ?_
    simpa using hbefore q.id (List.mem_map_of_mem hq) p.id List.mem_cons_self
  have hafter : (after.filter fun q => q.id == p.id) = [] := by
    refine List.filter_eq_nil_iff.2 fun q hq => ?_
    rw [beq_iff_eq]
    exact fun hid => hafter (hid ▸ List.mem_map_of_mem hq)
  rw [hpoints, List.filter_append, List.filter_cons_of_pos (by simp), hbefore, hafter, List.nil_append]

/-- A data point is found under its id, because no other has it. -/
theorem get?_of_mem (h : p ∈ s.points) : s.get? p.id = some p := by
  rw [get?, ← List.head?_filter, filter_id_eq h]
  rfl

theorem get?_eq_none {id : String} (h : ∀ q ∈ s.points, q.id ≠ id) : s.get? id = none := by
  rw [get?, List.find?_eq_none]
  intro q hq
  simpa using h q hq

theorem of_mem_addAll (h : p ∈ (s.addAll ps).points) : p ∈ s.points ∨ p ∈ ps := by
  induction ps generalizing s with
  | nil => exact .inl h
  | cons q ps ih =>
    rw [addAll_cons] at h
    rcases ih h with h | h
    · by_cases hq : q.id ∈ s.ids
      · rw [add_dup hq] at h
        exact .inl h
      · rw [add_points hq, List.mem_append, List.mem_singleton] at h
        rcases h with h | rfl
        · exact .inl h
        · exact .inr List.mem_cons_self
    · exact .inr (List.mem_cons_of_mem _ h)

end Store

theorem DataPoint.firstOfEach_of_nodup {ps : List DataPoint} (h : (ps.map DataPoint.id).Nodup) :
    firstOfEach ps = ps := by
  induction ps with
  | nil => rfl
  | cons p ps ih =>
    rw [List.map_cons, List.nodup_cons] at h
    rw [firstOfEach, ih h.2, List.filter_eq_self.2]
    intro q hq
    rw [bne_iff_ne]
    intro hid
    exact h.1 (hid ▸ List.mem_map_of_mem hq)

/-- Of data points with ids of their own none is lost whose id was not there before. -/
theorem Store.mem_addAll_of_nodup {s : Store} {p : DataPoint} {ps : List DataPoint}
    (distinct : (ps.map DataPoint.id).Nodup) (h : p ∈ ps) (fresh : ∀ q ∈ s.points, q.id ≠ p.id) :
    p ∈ (s.addAll ps).points := by
  have hnew : p.id ∉ s.ids := by
    intro hmem
    obtain ⟨q, hq, hid⟩ := List.mem_map.1 hmem
    exact fresh q hq hid
  rw [points_addAll, DataPoint.firstOfEach_of_nodup distinct]
  refine List.mem_append_right _ (List.mem_filter.2 ⟨h, ?_⟩)
  simpa [contains] using hnew

/-- No id is left twice. -/
theorem DataPoint.nodup_firstOfEach (ps : List DataPoint) :
    ((firstOfEach ps).map DataPoint.id).Nodup := by
  rw [← Store.points_addAll_empty]
  exact (Store.empty.addAll ps).nodup

end Runbook
