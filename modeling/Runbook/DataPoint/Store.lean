import Runbook.DataPoint.Basic
import Runbook.Log.Basic

/-!
# The data points of a run

A store holds data points in the order in which they were added, no two with one id. The first data point
with an id stays: adding another one has no effect but a warning. `Store.add_points` and `Store.add_dup`
say so.
-/

namespace Runbook

/-- Data points in the order of their arrival, with distinct ids. -/
structure Store where
  points : List DataPoint
  nodup : (points.map DataPoint.id).Nodup

namespace Store

/-- The store without data points. -/
def empty : Store :=
  ⟨[], List.nodup_nil⟩

/-- The ids, in order. -/
def ids (s : Store) : List String :=
  s.points.map DataPoint.id

/-- How many data points there are. -/
def size (s : Store) : Nat :=
  s.points.length

/-- Is there a data point with this id? -/
def contains (id : String) (s : Store) : Bool :=
  s.ids.contains id

/-- The data point with this id. -/
def get? (id : String) (s : Store) : Option DataPoint :=
  s.points.find? fun p => p.id == id

/-- The first data point whose id starts with `start`. -/
def findByPrefix? (start : String) (s : Store) : Option DataPoint :=
  s.points.find? fun p => start.toList.isPrefixOf p.id.toList

/-- The first data point from a source. -/
def findBySource? (source : String) (s : Store) : Option DataPoint :=
  s.points.find? fun p => p.source == source

/-- Adds a data point at the end, unless its id is taken. -/
def add (p : DataPoint) (s : Store) : Store :=
  if h : p.id ∈ s.ids then s
  else
    { points := s.points ++ [p]
      nodup := by
        have hp := s.nodup
        rw [List.map_append, List.nodup_append]
        refine ⟨hp, by simp, ?_⟩
        intro a ha b hb
        simp only [List.map_cons, List.map_nil, List.mem_singleton] at hb
        rintro rfl
        exact h (hb ▸ ha) }

theorem add_points {p : DataPoint} {s : Store} (h : p.id ∉ s.ids) :
    (s.add p).points = s.points ++ [p] := by
  simp [add, h]

theorem add_dup {p : DataPoint} {s : Store} (h : p.id ∈ s.ids) : s.add p = s := by
  simp [add, h]

/-- Adds data points one after the other. -/
def addAll (ps : List DataPoint) (s : Store) : Store :=
  ps.foldl (fun s p => s.add p) s

/-- The warning about a data point whose id is taken. -/
def duplicateRecord (p : DataPoint) : Log.Record :=
  { source := .dataPoints
    level := .warning
    message := "Duplicate data point id ignored"
    fields := [("data_point_id", .str p.id), ("source", .str p.source)] }

/-- Adds a data point, with a warning if its id is taken. -/
def addLogged (p : DataPoint) (s : Store) : Logged Store := do
  if s.contains p.id then Logged.tell (duplicateRecord p)
  return s.add p

/-- Adds data points one after the other, with a warning for each whose id is taken. -/
def addAllLogged (ps : List DataPoint) (s : Store) : Logged Store :=
  ps.foldlM (fun s p => s.addLogged p) s

@[simp] theorem value_addLogged (p : DataPoint) (s : Store) : (s.addLogged p).value = s.add p := by
  unfold addLogged
  split <;> rfl

@[simp] theorem value_addAllLogged (ps : List DataPoint) (s : Store) :
    (s.addAllLogged ps).value = s.addAll ps := by
  induction ps generalizing s with
  | nil => rfl
  | cons p ps ih =>
    show ((s.addLogged p).value.addAllLogged ps).value = (s.add p).addAll ps
    rw [value_addLogged, ih]

end Store

end Runbook
