import Runbook.Proofs.Text.Substring
import Runbook.Proofs.Token.Scan
import Runbook.Reference.Output

/-!
# Which step an id names

* `stepOfOutput?_append` — the id of an output names its step.
* `named_of_stepOfOutput?` — an identifier that names a step is the id of the output of that step, as it is or
  with an underscore and a number after it.
* `NamesOutput.eq_of_append` — which is the id of no other output.
-/

namespace Runbook

/-- The two spellings of the id of an output. -/
inductive NamesOutput (step : String) (id : String) : Prop where
  | plain (spelled : id = step ++ outputMarker)
  | stamped (stamp : List Char) (number : stamp ≠ [] ∧ ∀ c ∈ stamp, Text.isDecimal c = true)
      (spelled : id.toList = (step ++ outputMarker).toList ++ '_' :: stamp)

theorem beforeMarker?_append (cs : List Char) :
    beforeMarker? (cs ++ outputMarker.toList) = some cs := by
  rw [beforeMarker?, Text.stripSuffix?_eq_some_iff.2 rfl]
  rfl

/-- The id of an output names its step. -/
theorem stepOfOutput?_append (step : String) :
    stepOfOutput? (step ++ outputMarker) = if step = "" then none else some step := by
  have hlast : (step ++ outputMarker).toList.getLast? = some 't' := by
    rw [String.toList_append, List.getLast?_append]
    rfl
  rw [stepOfOutput?, hlast]
  simp only [String.toList_append, beforeMarker?_append]
  by_cases h : step = ""
  · simp [h]
  · rw [if_neg h]
    simp [h]

theorem dropStamp_cases (cs : List Char) :
    dropStamp cs = cs ∨ ∃ stamp, (stamp ≠ [] ∧ ∀ c ∈ stamp, Text.isDecimal c = true) ∧
      cs = dropStamp cs ++ '_' :: stamp := by
  unfold dropStamp
  split
  · rename_i base stamp hsplit
    split
    · rename_i hstamp
      refine .inr ⟨stamp, ?_, (Text.splitLast?_eq_some_iff.1 hsplit).1⟩
      simpa using hstamp
    · exact .inl rfl
  · exact .inl rfl

/-- An identifier that names a step is an id of the output of that step. -/
theorem named_of_stepOfOutput? {id step : String} (hid : Token.isIdent id = true)
    (h : stepOfOutput? id = some step) : step ≠ "" ∧ NamesOutput step id := by
  obtain ⟨-, hchars⟩ := Token.isIdent_eq_true.1 hid
  -- an identifier has no line break at its end, so that its ending is looked for as it is
  have hfound : (beforeMarker? id.toList).filter (fun step => !step.isEmpty) = some step.toList := by
    unfold stepOfOutput? at h
    obtain ⟨found, hfound, rfl⟩ := Option.map_eq_some_iff.1 h
    rw [String.toList_ofList]
    split at hfound
    · rename_i hlast
      exact absurd (hchars _ (List.mem_of_getLast? hlast)) (by decide)
    · exact hfound
  rw [Option.filter_eq_some_iff] at hfound
  obtain ⟨hbefore, hne⟩ := hfound
  refine ⟨by simpa using hne, ?_⟩
  rw [beforeMarker?, Option.or_eq_some_iff] at hbefore
  have hplain : Text.stripSuffix? outputMarker.toList id.toList = some step.toList →
      NamesOutput step id := by
    intro hstrip
    refine .plain ?_
    rw [← String.toList_inj, String.toList_append]
    exact Text.stripSuffix?_eq_some_iff.1 hstrip
  rcases hbefore with hstrip | ⟨-, hstrip⟩
  · exact hplain hstrip
  · rcases dropStamp_cases id.toList with hdrop | ⟨stamp, hstamp, hdrop⟩
    · rw [hdrop] at hstrip
      exact hplain hstrip
    · refine .stamped stamp hstamp ?_
      rw [hdrop, String.toList_append, Text.stripSuffix?_eq_some_iff.1 hstrip]

/-- No output has an id with a number after it. -/
theorem ne_of_stamped {id step : String} {stamp : List Char}
    (number : stamp ≠ [] ∧ ∀ c ∈ stamp, Text.isDecimal c = true)
    (spelled : id.toList = (step ++ outputMarker).toList ++ '_' :: stamp) (other : String) :
    other ++ outputMarker ≠ id := by
  intro hid
  have hlast := congrArg (fun id : String => id.toList.getLast?) hid
  simp only [spelled, String.toList_append, List.getLast?_append, List.getLast?_cons,
    List.getLast?_eq_some_getLast number.1] at hlast
  have hdecimal := number.2 _ (List.getLast_mem number.1)
  rw [← show 't' = stamp.getLast number.1 by simpa [outputMarker] using hlast] at hdecimal
  exact absurd hdecimal (by decide)

/-- The only output with an id that names an output is the one that is named. -/
theorem NamesOutput.eq_of_append {id step other : String} (h : NamesOutput step id)
    (hid : other ++ outputMarker = id) : id = step ++ outputMarker := by
  cases h with
  | plain spelled => exact spelled
  | stamped stamp number spelled => exact absurd hid (ne_of_stamped number spelled other)

end Runbook
