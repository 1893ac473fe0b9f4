import Runbook.Proofs.DataPoint.Store
import Runbook.Proofs.Reference.Output
import Runbook.Token.Resolve

/-!
# Finding the output of a step

* `splitStamp?_eq_some_iff` — a number is split off an id that ends in one.
* `Store.lookup_output` — whichever of the two spellings an id has, it stands for the output that it names, if
  that is among the data points and none of them has the longer spelling as its own id.
-/

namespace Runbook

theorem Text.isDigits_of_isDecimal {cs : List Char}
    (h : cs ≠ [] ∧ ∀ c ∈ cs, isDecimal c = true) : isDigits cs = true := by
  rw [isDigits, Bool.and_eq_true, List.all_eq_true]
  refine ⟨by simpa using h.1, fun c hc => ?_⟩
  rw [isDigit, h.2 c hc, Bool.true_or]

/-! ## Ids with a number after them -/

/-- An id that ends in an underscore and digits, with something before them. -/
structure Stamped (id base : String) (stamp : List Char) : Prop where
  nonempty : base ≠ ""
  digits : Text.isDigits stamp = true
  spelled : id.toList = base.toList ++ '_' :: stamp

section

variable {id base base' : String} {stamp stamp' : List Char}

theorem splitStamp?_eq_some_iff : splitStamp? id = some (base, stamp) ↔ Stamped id base stamp := by
  unfold splitStamp?
  constructor
  · intro h
    split at h
    · rename_i before tail hsplit
      split at h
      · cases h
      · rename_i hboth
        simp only [Bool.or_eq_true, Bool.not_eq_true', not_or, Bool.not_eq_false] at hboth
        obtain ⟨rfl, rfl⟩ := Prod.mk.inj (Option.some.inj h)
        refine ⟨fun hempty => hboth.1 ?_, hboth.2, ?_⟩
        · rw [← String.toList_eq_nil_iff, String.toList_ofList] at hempty
          rw [hempty]
          rfl
        · rw [String.toList_ofList]
          exact (Text.splitLast?_eq_some_iff.1 hsplit).1
    · cases h
  · rintro ⟨hne, hdigits, hspelled⟩
    have hunderscore : '_' ∉ stamp := by
      intro hmem
      rw [Text.isDigits, Bool.and_eq_true, List.all_eq_true] at hdigits
      exact absurd (hdigits.2 _ hmem) (by decide)
    have hempty : base.toList.isEmpty = false := by simpa using hne
    rw [Text.splitLast?_eq_some_iff.2 ⟨hspelled, hunderscore⟩]
    simp [hempty, hdigits]

theorem not_stamped (h : splitStamp? id = none) : ¬ Stamped id base stamp := by
  intro hstamped
  rw [splitStamp?_eq_some_iff.2 hstamped] at h
  cases h

/-- There is one way to take a number off an id. -/
theorem Stamped.eq (h : Stamped id base stamp) (h' : Stamped id base' stamp') : base = base' ∧ stamp = stamp' := by
  rw [← splitStamp?_eq_some_iff] at h h'
  rw [h] at h'
  exact Prod.mk.inj (Option.some.inj h')

end

/-! ## The output of a step -/

namespace Store

variable {s : Store} {id step : String} {p : DataPoint}

/-- An id of a data point stands for it. -/
theorem lookup_of_mem (h : p ∈ s.points) : s.lookup p.id = some p := by
  rw [lookup, get?_of_mem h]
  rfl

/-- An id with a number after it stands for the output that it names. -/
theorem findOutput?_stamped (h : p ∈ s.points) (hid : p.id = step ++ outputMarker)
    {stamp : List Char} (number : stamp ≠ [] ∧ ∀ c ∈ stamp, Text.isDecimal c = true)
    (spelled : id.toList = (step ++ outputMarker).toList ++ '_' :: stamp) :
    s.findOutput? id = some p := by
  have hne : step ++ outputMarker ≠ "" := by
    intro hempty
    have hlength := congrArg String.length hempty
    rw [String.length_append] at hlength
    exact absurd hlength (Nat.ne_of_gt (Nat.lt_of_lt_of_le (by decide) (Nat.le_add_left _ _)))
  have hsuffix : Text.stripSuffix? outputMarker.toList (step ++ outputMarker).toList =
      some step.toList := by
    rw [Text.stripSuffix?_eq_some_iff, String.toList_append]
  have hstrip : (Text.stripSuffix? "_output".toList (step ++ outputMarker).toList).isSome = true := by
    show (Text.stripSuffix? outputMarker.toList _).isSome = true
    rw [hsuffix]
    rfl
  rw [findOutput?, splitStamp?_eq_some_iff.2 ⟨hne, Text.isDigits_of_isDecimal number, spelled⟩]
  simp only [hstrip, if_true]
  rw [← hid]
  exact get?_of_mem h

/-- **An id that names an output stands for it**, if it is not the id of another data point. -/
theorem lookup_output (h : p ∈ s.points) (hid : p.id = step ++ outputMarker)
    (named : NamesOutput step id) (free : ∀ q ∈ s.points, q.id = id → q.id = p.id) :
    s.lookup id = some p := by
  cases named with
  | plain spelled =>
    rw [spelled, ← hid]
    exact lookup_of_mem h
  | stamped stamp number spelled =>
    have hnone : s.get? id = none := by
      refine get?_eq_none fun q hq hsame => ?_
      refine ne_of_stamped number spelled step ?_
      rw [← hid, ← free q hq hsame, hsame]
    rw [lookup, hnone, findOutput?_stamped h hid number spelled]
    rfl

end Store

end Runbook
