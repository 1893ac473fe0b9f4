import Runbook.Proofs.Token.Scan
import Runbook.Token.Render

/-!
# When a value has a text

A value has a text, and so has every part of it that a token can ask for, with one exception: the position of an
item is a numeral, and numerals of too many digits are refused (`Token.exists_render_iff`). That the field of a token
consists of digits and is no numeral all the same does not occur: identifiers are of ASCII, where all digits have a
decimal value.
-/

namespace Runbook

namespace Text

/-- All digits without a decimal value lie outside of ASCII. -/
theorem isDecimal_of_isDigit {c : Char} (ascii : c.toNat < 128) (h : isDigit c = true) : isDecimal c = true := by
  have hother : ∀ range ∈ otherDigits, 128 ≤ range.1 := by decide
  rw [isDigit, Bool.or_eq_true] at h
  refine h.resolve_right fun hrange => ?_
  obtain ⟨range, hmem, hin⟩ := List.any_eq_true.1 hrange
  have hfrom : range.1 ≤ c.toNat := of_decide_eq_true (Bool.and_eq_true_iff.1 hin).1
  have hascii := hother range hmem
  omega

/-- Decimal digits make a numeral. -/
theorem isSome_natural? {cs : List Char} (hne : cs ≠ []) (h : ∀ c ∈ cs, isDecimal c = true) :
    (natural? cs).isSome = true := by
  have hvalues : ∃ values, cs.mapM decimalValue? = some values := by
    clear hne
    induction cs with
    | nil => exact ⟨[], rfl⟩
    | cons c cs ih =>
      rw [List.forall_mem_cons] at h
      obtain ⟨value, hvalue⟩ := Option.isSome_iff_exists.1 h.1
      obtain ⟨values, hvalues⟩ := ih h.2
      exact ⟨value :: values, by rw [List.mapM_cons, hvalue, hvalues]; rfl⟩
  obtain ⟨values, hvalues⟩ := hvalues
  simp [natural?, hne, hvalues]

end Text

namespace Token

theorem toNat_lt_of_isIdentChar {c : Char} (h : isIdentChar c = true) : c.toNat < 128 := by
  simp only [isIdentChar, Bool.or_eq_true, Bool.and_eq_true, decide_eq_true_eq, beq_iff_eq] at h
  have hle : c ≤ 'z' := by
    rcases h with (((⟨-, h⟩ | ⟨-, h⟩) | ⟨-, h⟩) | rfl) | rfl
    · exact h
    · exact Char.le_trans h (by decide)
    · exact Char.le_trans h (by decide)
    · decide
    · decide
  exact Nat.lt_of_le_of_lt hle (by decide)

/-- A position is read exactly if it has no more digits than are read. -/
theorem exists_position_iff {field : String} (ident : isIdent field = true)
    (digits : Text.isDigits field.toList = true) :
    (∃ n, position field = .ok n) ↔ field.toList.length ≤ maxPositionDigits := by
  obtain ⟨hne, hchars⟩ := isIdent_eq_true.1 ident
  have hdecimal : ∀ c ∈ field.toList, Text.isDecimal c = true := fun c hc =>
    Text.isDecimal_of_isDigit (toNat_lt_of_isIdentChar (hchars c hc))
      (List.all_eq_true.1 (Bool.and_eq_true_iff.1 digits).2 c hc)
  obtain ⟨n, hn⟩ := Option.isSome_iff_exists.1 (Text.isSome_natural? hne hdecimal)
  rw [← Nat.not_lt]
  simp only [position, hn]
  split <;> simp [*]

/-- Is an item of a list asked for, by a numeral of more digits than are read? -/
def Overlong (value : Json) (field : Option String) : Prop :=
  ∃ items numeral, value = .list items ∧ field = some numeral ∧
    Text.isDigits numeral.toList = true ∧ maxPositionDigits < numeral.toList.length

/-- The text of a value or of a part of it can be told, unless the numeral of an item has too many digits. -/
theorem exists_render_iff {value : Json} {field : Option String} (ident : ∀ f ∈ field, isIdent f = true) :
    (∃ text, render value field = .ok text) ↔ ¬ Overlong value field := by
  cases field with
  | none => simp [render, Overlong]
  | some field =>
    by_cases hraw : field = rawField
    · subst hraw
      have hdigits : Text.isDigits rawField.toList = false := by decide
      simp [render, Overlong, hdigits]
    · cases value with
      | list items =>
        by_cases hdigits : Text.isDigits field.toList = true
        · have hrender : (∃ text, render (.list items) (some field) = .ok text) ↔
              ∃ n, position field = .ok n := by
            simp only [render, hraw, if_false, renderItem, hdigits, if_true]
            cases position field <;> simp [Except.map]
          rw [hrender, exists_position_iff (ident field rfl) hdigits, ← Nat.not_lt]
          simp [Overlong, hdigits]
        · simp [render, hraw, renderItem, Overlong, hdigits]
      | _ => simp [render, hraw, Overlong]

end Token

end Runbook
