import Runbook.Files.Machine
import Runbook.Proofs.Json.Scalar

/-!
# The text of a file of JSON

A text without carriage returns is what the bytes of its file hold (`text?_toUTF8`), and the text of a value has
none: in a string they are escaped (`notMem_prettyChars`).
-/

namespace Runbook

namespace Files

theorem unifyLines_of_notMem {cs : List Char} (h : '\r' ∉ cs) : unifyLines cs = cs := by
  induction cs with
  | nil => rfl
  | cons c cs ih =>
    rw [List.mem_cons, not_or] at h
    rw [unifyLines, ih h.2]
    · rintro _ rfl
      exact fun _ => h.1 rfl
    · rintro rfl
      exact h.1 rfl

/-- A text without carriage returns is what its bytes hold. -/
theorem text?_toUTF8 {s : String} (h : '\r' ∉ s.toList) : text? s.toUTF8 = some s := by
  have hbytes : String.fromUTF8? s.toUTF8 = some s := dif_pos s.isValidUTF8
  rw [text?, hbytes, Option.map_some, unifyLines_of_notMem h, String.ofList_toList]

end Files

namespace Decimal

theorem notMem_digitText (n : Nat) : '\r' ∉ digitText n :=
  fun h => absurd (isDigit_of_mem_digitText h) (by decide)

theorem notMem_exponentText (e : Int) : '\r' ∉ exponentText e := by
  simp only [exponentText]
  split_ifs <;> simp [notMem_digitText]

theorem notMem_positional (style : Style) (s : Scientific) : '\r' ∉ positional style s := by
  have htake (n : Nat) : '\r' ∉ (digitText s.digits).take n :=
    fun h => notMem_digitText _ (List.mem_of_mem_take h)
  have hdrop (n : Nat) : '\r' ∉ (digitText s.digits).drop n :=
    fun h => notMem_digitText _ (List.mem_of_mem_drop h)
  simp only [positional]
  split_ifs <;> simp [notMem_digitText, List.mem_replicate, htake, hdrop]

theorem notMem_exponential (s : Scientific) : '\r' ∉ exponential s := by
  have hdigits := notMem_digitText s.digits
  simp only [exponential]
  split
  · simp
  · rename_i d hd
    rw [hd, List.mem_singleton] at hdigits
    simp [hdigits, notMem_exponentText]
  · rename_i d ds _ hd
    rw [hd, List.mem_cons, not_or] at hdigits
    simp [hdigits, notMem_exponentText]

theorem notMem_writeScientific (style : Style) (s : Scientific) : '\r' ∉ style.writeScientific s := by
  simp only [Style.writeScientific]
  split_ifs
  · exact notMem_positional style s
  · exact notMem_exponential s

end Decimal

namespace Json

/-- A carriage return in a string is escaped. -/
theorem notMem_escapeChar (c : Char) : '\r' ∉ escapeChar c := by
  have hdigit : ∀ n < 16, n.digitChar ≠ '\r' := by decide
  by_cases hreturn : c = '\r'
  · subst hreturn
    decide
  · simp only [escapeChar]
    split_ifs
    all_goals simp only [List.mem_cons, List.not_mem_nil, hexPair, or_false, not_or]
    all_goals try decide
    · exact ⟨by decide, by decide, by decide, by decide, (hdigit _ (by omega)).symm, (hdigit _ (by omega)).symm⟩
    · exact fun h => hreturn h.symm

theorem notMem_quoted (s : String) : '\r' ∉ quoted s := by
  simp [quoted, notMem_escapeChar]

theorem notMem_integerText (n : Int) : '\r' ∉ integerText n := by
  unfold integerText
  split_ifs <;> simp [Decimal.notMem_digitText]

theorem notMem_floatText (x : Float) : '\r' ∉ floatText x := by
  unfold floatText
  split
  · decide
  · split_ifs <;> decide
  · rename_i negative mantissa exponent hx
    simp only [Decimal.Style.write, hx, String.toList_append, String.toList_ofList, List.mem_append, not_or]
    exact ⟨by cases negative <;> decide, Decimal.notMem_writeScientific _ _⟩

theorem notMem_scalarText (json : Json) : '\r' ∉ scalarText json := by
  unfold scalarText
  split
  · decide
  · decide
  · decide
  · exact notMem_integerText _
  · exact notMem_floatText _
  · exact notMem_quoted _
  · simp
  · simp

theorem notMem_newline (level : Nat) : '\r' ∉ newline level := by
  simp [newline, List.mem_replicate]

mutual

theorem notMem_prettyChars (level : Nat) : ∀ json : Json, '\r' ∉ prettyChars level json
  | null | bool _ | int _ | float _ | str _ => notMem_scalarText _
  | list [] | record [] => by simp [prettyChars]
  | list (item :: items) => by
    simp [prettyChars, notMem_newline, notMem_prettyChars (level + 1) item, notMem_prettyItems (level + 1) items]
  | record ((key, item) :: fields) => by
    simp [prettyChars, notMem_newline, notMem_quoted, notMem_prettyChars (level + 1) item,
      notMem_prettyFields (level + 1) fields]

theorem notMem_prettyItems (level : Nat) : ∀ items : List Json, '\r' ∉ prettyItems level items
  | [] => by simp [prettyItems]
  | item :: items => by
    simp [prettyItems, notMem_newline, notMem_prettyChars level item, notMem_prettyItems level items]

theorem notMem_prettyFields (level : Nat) : ∀ fields : List (String × Json), '\r' ∉ prettyFields level fields
  | [] => by simp [prettyFields]
  | (key, item) :: fields => by
    simp [prettyFields, notMem_newline, notMem_quoted, notMem_prettyChars level item,
      notMem_prettyFields level fields]

end

end Json

/-- The text of a value, with a line feed at its end, is what a file of it holds. -/
theorem Files.text?_pretty (json : Json) :
    text? (json.pretty ++ "\n").toUTF8 = some (json.pretty ++ "\n") := by
  refine text?_toUTF8 ?_
  simp [Json.pretty, Json.notMem_prettyChars]

end Runbook
