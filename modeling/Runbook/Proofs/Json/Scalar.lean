import Mathlib.Data.List.Basic
import Mathlib.Data.List.TakeWhile
import Runbook.Json.Printer
import Runbook.Json.Reader

/-!
# Integers are read back

What `integerText` writes is read back, whatever follows, as long as no more of a numeral follows.

* `Decimal.ofDigits_digitText` — the digits of a number write it, and the first of several is not zero
  (`head?_digitText`).
* `wholeDigits_append` — digits without a needless zero are split off the front, and no more than they.
-/

namespace Runbook

namespace Decimal

theorem isDigit_eq_isDigit (c : Char) : isDigit c = c.isDigit := by
  have hle : ('0' ≤ c ∧ c ≤ '9') ↔ c.isDigit = true := by
    simp [Char.isDigit, Char.le_def]
  unfold isDigit digit?
  by_cases h : c.isDigit = true
  · simp [hle.2 h, h]
  · have hnot := mt hle.1 h
    simp only [Bool.and_eq_true, decide_eq_true_eq, if_neg hnot, Option.isSome_none]
    simpa using h

theorem digitText_ne_nil (n : Nat) : digitText n ≠ [] :=
  Nat.toDigits_ne_nil

theorem isDigit_of_mem_digitText {n : Nat} {c : Char} (h : c ∈ digitText n) : isDigit c = true := by
  rw [isDigit_eq_isDigit]
  exact Nat.isDigit_of_mem_toDigits (by decide) (by decide) h

/-- Where all characters are digits, none is passed over. -/
theorem foldl_digit? {cs : List Char} (h : ∀ c ∈ cs, isDigit c = true) (n : Nat) :
    (cs.filterMap digit?).foldl (fun n d => 10 * n + d) n = Nat.ofDigitChars 10 cs n := by
  induction cs generalizing n with
  | nil => rfl
  | cons c cs ih =>
    rw [List.forall_mem_cons] at h
    obtain ⟨d, hd⟩ := Option.isSome_iff_exists.1 h.1
    have hvalue : d = c.toNat - '0'.toNat := by
      unfold digit? at hd
      split at hd
      · exact (Option.some.inj hd).symm
      · cases hd
    rw [List.filterMap_cons_some hd, List.foldl_cons, ih h.2, hvalue]
    rfl

theorem ofDigits_digitText (n : Nat) : ofDigits (digitText n) = n := by
  rw [ofDigits, foldl_digit? fun c => isDigit_of_mem_digitText]
  exact Nat.ofDigitChars_ten_toDigits

/-- A zero starts no numeral but its own. -/
theorem head?_digitText {n : Nat} (h : 0 < n) : (digitText n).head? ≠ some '0' := by
  induction n using Nat.strongRecOn with
  | ind n ih =>
    by_cases hlt : n < 10
    · have hdigit : ∀ d < 10, 0 < d → d.digitChar ≠ '0' := by decide
      rw [digitText, Nat.toDigits_of_lt_base hlt]
      exact fun heq => hdigit n hlt h (Option.some.inj heq)
    · have hdigits : digitText n = digitText (n / 10) ++ [(n % 10).digitChar] :=
        Nat.toDigits_of_base_le (by decide) (Nat.le_of_not_lt hlt)
      have hne : digitText (n / 10) ≠ [] := Nat.toDigits_ne_nil
      rw [hdigits, List.head?_append_of_ne_nil _ hne]
      exact ih (n / 10) (by omega) (by omega)

end Decimal

namespace Json

/-- Does what follows go on with no numeral? -/
def EndsNumber (rest : List Char) : Prop :=
  ∀ c ∈ rest.head?, Decimal.isDigit c = false ∧ c ≠ '.' ∧ c ≠ 'e' ∧ c ≠ 'E'

variable {rest : List Char}

/-- Digits with no digit after them. -/
theorem digits_append {cs : List Char} (hcs : ∀ c ∈ cs, Decimal.isDigit c = true)
    (h : ∀ c ∈ rest.head?, Decimal.isDigit c = false) :
    (cs ++ rest).takeWhile Decimal.isDigit = cs ∧ (cs ++ rest).dropWhile Decimal.isDigit = rest := by
  rw [List.takeWhile_append_of_pos hcs, List.dropWhile_append_of_pos hcs]
  cases rest with
  | nil => simp
  | cons c rest => simp [h c rfl]

theorem wholeDigits_append {cs : List Char} (hcs : ∀ c ∈ cs, Decimal.isDigit c = true) (hne : cs ≠ [])
    (hzero : cs.head? ≠ some '0') (h : ∀ c ∈ rest.head?, Decimal.isDigit c = false) :
    wholeDigits (cs ++ rest) = (cs, rest) := by
  obtain ⟨htake, hdrop⟩ := digits_append hcs h
  unfold wholeDigits
  split
  · rename_i ds hds
    have hhead : (cs ++ rest).head? = cs.head? := List.head?_append_of_ne_nil cs hne
    rw [← hhead, hds] at hzero
    exact absurd rfl hzero
  · rw [htake, hdrop]

theorem exponentPart_of_endsNumber (h : EndsNumber rest) : exponentPart rest = (none, rest) := by
  cases rest with
  | nil => rfl
  | cons c rest => simp [exponentPart, (h c rfl).2.2.1, (h c rfl).2.2.2]

end Json

end Runbook
