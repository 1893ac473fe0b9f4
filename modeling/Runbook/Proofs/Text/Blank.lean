import Mathlib.Data.List.DropRight
import Runbook.Text.Blank

/-!
# Texts without blanks at their ends

* `trimChars_eq_self_iff` — trimming leaves exactly the texts that neither begin nor end with a blank.
* `trimChars_append_blanks` — blanks at the end do not matter.
* `trimChars_append` — two trimmed texts keep a text trimmed, whatever stands between them.
-/

namespace Runbook.Text

variable {cs ds middle : List Char} {c : Char}

theorem dropEndWhile_eq_rdropWhile (p : Char → Bool) (cs : List Char) :
    dropEndWhile p cs = cs.rdropWhile p := rfl

theorem dropEndWhile_append_blanks (h : ∀ c ∈ ds, isBlank c = true) :
    dropEndWhile isBlank (cs ++ ds) = dropEndWhile isBlank cs := by
  have hreverse : ∀ c ∈ ds.reverse, isBlank c = true := fun c hc => h c (List.mem_reverse.1 hc)
  rw [dropEndWhile, List.reverse_append, List.dropWhile_append_of_pos hreverse]
  rfl

/-- Blanks at the end do not matter. -/
theorem trimChars_append_blanks (h : ∀ c ∈ ds, isBlank c = true) :
    trimChars (cs ++ ds) = trimChars cs := by
  rw [trimChars, stripBy, trimChars, stripBy]
  by_cases hcs : ∀ c ∈ cs, isBlank c = true
  · rw [List.dropWhile_append_of_pos hcs, List.dropWhile_eq_nil_iff.2 hcs,
      List.dropWhile_eq_nil_iff.2 h]
  · have hne : (cs.dropWhile isBlank).isEmpty = false := by
      simpa [List.isEmpty_eq_false_iff, List.dropWhile_eq_nil_iff] using hcs
    rw [List.dropWhile_append, hne]
    exact dropEndWhile_append_blanks h

/-- What is taken off the end are blanks. -/
theorem exists_blanks_dropEndWhile (cs : List Char) :
    ∃ ds, (∀ c ∈ ds, isBlank c = true) ∧ cs = dropEndWhile isBlank cs ++ ds :=
  ⟨cs.rtakeWhile isBlank, fun _ => List.mem_rtakeWhile_imp, List.rdropWhile_append_rtakeWhile.symm⟩

theorem trimChars_dropEndWhile (cs : List Char) :
    trimChars (dropEndWhile isBlank cs) = trimChars cs := by
  obtain ⟨ds, hds, hcs⟩ := exists_blanks_dropEndWhile cs
  rw [← trimChars_append_blanks hds, ← hcs]

theorem length_trimChars_le (cs : List Char) : (trimChars cs).length ≤ cs.length :=
  (List.rdropWhile_prefix _ _).length_le.trans (List.dropWhile_suffix _).length_le

/-- What is left of a trimmed text stood in it as it is. -/
theorem trimChars_infix (cs : List Char) : trimChars cs <:+: cs :=
  (List.rdropWhile_prefix _ _).isInfix.trans (List.dropWhile_suffix _).isInfix

theorem trimChars_cons_blank (h : isBlank c = true) : trimChars (c :: cs) = trimChars cs := by
  rw [trimChars, stripBy, List.dropWhile_cons_of_pos h, trimChars, stripBy]

theorem trimChars_cons (h : isBlank c = false) :
    trimChars (c :: cs) = c :: dropEndWhile isBlank cs := by
  rw [trimChars, stripBy, List.dropWhile_cons_of_neg (by simp [h]), dropEndWhile_eq_rdropWhile,
    dropEndWhile_eq_rdropWhile]
  induction cs using List.reverseRecOn with
  | nil => simp [List.rdropWhile_singleton, h]
  | append_singleton cs d ih =>
    rw [← List.cons_append, List.rdropWhile_concat, List.rdropWhile_concat, ih]
    split <;> rfl

/-- A trimmed text has nothing more to trim. -/
theorem trimChars_trimChars (cs : List Char) : trimChars (trimChars cs) = trimChars cs := by
  induction cs with
  | nil => rfl
  | cons c cs ih =>
    by_cases hc : isBlank c = true
    · rw [trimChars_cons_blank hc, ih]
    · have hc : isBlank c = false := by simpa using hc
      rw [trimChars_cons hc, trimChars_cons hc]
      exact congrArg (c :: ·) (List.rdropWhile_idempotent isBlank cs)

/-- Trimming leaves exactly the texts that neither begin nor end with a blank. -/
theorem trimChars_eq_self_iff : trimChars cs = cs ↔
    (∀ c ∈ cs.head?, isBlank c = false) ∧ ∀ c ∈ cs.getLast?, isBlank c = false := by
  cases cs with
  | nil => simp [trimChars, stripBy, dropEndWhile]
  | cons c cs =>
    by_cases hc : isBlank c = true
    · -- a blank at the front is lost, and nothing takes its place
      have hlength : (trimChars (c :: cs)).length ≤ cs.length := by
        rw [trimChars_cons_blank hc]
        exact length_trimChars_le cs
      constructor
      · intro h
        rw [h, List.length_cons] at hlength
        omega
      · rintro ⟨hhead, -⟩
        rw [hhead c rfl] at hc
        cases hc
    · have hc : isBlank c = false := by simpa using hc
      have hself : trimChars (c :: cs) = c :: cs ↔ dropEndWhile isBlank (c :: cs) = c :: cs := by
        rw [trimChars, stripBy, List.dropWhile_cons_of_neg (by simp [hc])]
      rw [hself, dropEndWhile_eq_rdropWhile, List.rdropWhile_eq_self_iff]
      simp [hc, List.getLast?_eq_some_getLast]

theorem isAllBlank_eq_false {text : String} (h : trimChars text.toList = text.toList) (hne : text ≠ "") :
    isAllBlank text = false := by
  obtain ⟨c, cs, hcs⟩ := List.exists_cons_of_ne_nil (mt String.toList_eq_nil_iff.1 hne)
  have hhead := (trimChars_eq_self_iff.1 h).1
  rw [hcs] at hhead
  rw [isAllBlank, hcs, List.all_cons, hhead c rfl, Bool.false_and]

/-- Two trimmed texts keep a text trimmed, whatever stands between them. -/
theorem trimChars_append (hcs : trimChars cs = cs) (hds : trimChars ds = ds) (hne : cs ≠ [])
    (hne' : ds ≠ []) (middle : List Char) : trimChars (cs ++ middle ++ ds) = cs ++ middle ++ ds := by
  rw [trimChars_eq_self_iff] at hcs hds ⊢
  obtain ⟨c, cs, rfl⟩ := List.exists_cons_of_ne_nil hne
  refine ⟨hcs.1, ?_⟩
  rw [List.getLast?_append_of_ne_nil _ hne']
  exact hds.2

end Runbook.Text
