import Mathlib.Tactic.FieldSimp
import Mathlib.Tactic.Ring
import Runbook.Decimal.Shortest
import Runbook.Proofs.Decimal.Nearest

/-!
# The shortest numeral is in the interval

`isNear_shortest`: the decimal number that `shortest` finds for a magnitude lies in the interval of that magnitude.
Either the search has found it there, or it has come to seventeen digits, and the grid of seventeen digits is finer
than the interval is wide.
-/

namespace Runbook.Decimal

variable {num den m n : Nat} {q e : Int}

/-- The number that is written. -/
def Scientific.toRat (s : Scientific) : ℚ :=
  s.digits * 10 ^ s.exponent

/-! ## Digits and places -/

theorem lt_pow_digitCount (n : Nat) : n < 10 ^ digitCount n :=
  (Nat.length_toDigits_le_iff (by decide) Nat.length_toDigits_pos).1 le_rfl

theorem pow_digitCount_le (h : 0 < n) : 10 ^ (digitCount n - 1) ≤ n := by
  rcases Nat.lt_or_ge 1 (digitCount n) with hmany | hone
  · by_contra hlt
    have hfewer : digitCount n ≤ digitCount n - 1 :=
      (Nat.length_toDigits_le_iff (by decide) (by omega)).2 (Nat.lt_of_not_le hlt)
    omega
  · rw [Nat.sub_eq_zero_of_le hone]
    exact h

theorem lt_zpow_digitCount (n : Nat) : (n : ℚ) < 10 ^ (digitCount n : Int) := by
  exact_mod_cast lt_pow_digitCount n

theorem zpow_digitCount_le (h : 0 < n) : (10 : ℚ) ^ ((digitCount n : Int) - 1) ≤ n := by
  have hpos : 0 < digitCount n := Nat.length_toDigits_pos
  have hcast : ((digitCount n : Int) - 1) = (digitCount n - 1 : Nat) := by omega
  rw [hcast]
  exact_mod_cast pow_digitCount_le h

/-- A positive number is not below its leading place. -/
theorem zpow_leadingPlace_le (hnum : 0 < num) (hden : 0 < den) :
    (10 : ℚ) ^ (leadingPlace num den - 1) ≤ num / den := by
  have hden' : (0 : ℚ) < den := by exact_mod_cast hden
  simp only [leadingPlace]
  generalize hguess : (digitCount num : Int) - digitCount den = guess
  split
  · rw [le_div_iff₀ hden']
    calc (10 : ℚ) ^ (guess - 1) * den ≤ 10 ^ (guess - 1) * 10 ^ (digitCount den : Int) := by
          gcongr
          exact (lt_zpow_digitCount den).le
      _ = 10 ^ ((digitCount num : Int) - 1) := by rw [← zpow_add₀ (by norm_num)]; congr 1; omega
      _ ≤ num := zpow_digitCount_le hnum
  · rename_i hnot
    have hle : den * 10 ^ guess.toNat ≤ num * 10 ^ (-guess).toNat := by simpa using hnot
    have hpos : (0 : ℚ) < (den * 10 ^ guess.toNat : Nat) := by exact_mod_cast Nat.mul_pos hden (by positivity)
    rw [add_sub_cancel_right, ← one_mul ((10 : ℚ) ^ guess), ← le_div_iff₀ (by positivity)]
    have hmoved := mul_pow_div_mul_pow (by decide : 0 < 10) num den guess
    norm_cast at hmoved ⊢
    rw [← hmoved, le_div_iff₀ (by exact_mod_cast hpos)]
    exact_mod_cast (one_mul _).trans_le hle

/-- Zeros at the end of the digits do not count. -/
theorem toRat_normalize (fuel : Nat) (s : Scientific) : (s.normalize fuel).toRat = s.toRat := by
  induction fuel generalizing s with
  | zero => rfl
  | succ fuel ih =>
    rw [Scientific.normalize]
    split
    · rename_i h
      have hten : s.digits = 10 * (s.digits / 10) := by
        simp only [Bool.and_eq_true, beq_iff_eq] at h
        omega
      have hdigits : (s.digits : ℚ) = 10 * (s.digits / 10 : Nat) := by exact_mod_cast hten
      rw [ih, Scientific.toRat, Scientific.toRat, hdigits, zpow_add_one₀ (by norm_num)]
      ring
    · rfl

/-- Rounding to a natural number moves by half a unit at most. -/
theorem abs_roundHalfEven_sub_le (hden : 0 < den) : |(roundHalfEven num den : ℚ) - num / den| ≤ 1 / 2 := by
  have hden' : (0 : ℚ) < den := by exact_mod_cast hden
  have hnum := Nat.div_add_mod' num den
  have hmod := Nat.mod_lt num hden
  simp only [roundHalfEven]
  generalize num / den = k at hnum ⊢
  generalize num % den = r at hnum hmod ⊢
  have hquotient : (num / den : ℚ) = k + r / den := by
    rw [← hnum]
    push_cast
    field_simp
  have hlow : (0 : ℚ) ≤ r / den := by positivity
  rw [hquotient, abs_le]
  split <;> rename_i h <;> simp only [Bool.or_eq_true, Bool.and_eq_true, decide_eq_true_eq, beq_iff_eq] at h
  · have hhalf : (r / den : ℚ) ≤ 1 / 2 := by
      rw [div_le_iff₀ hden']
      have : (2 * r : ℚ) ≤ den := by exact_mod_cast (show 2 * r ≤ den by omega)
      linarith
    constructor <;> linarith
  · have hhalf : (1 / 2 : ℚ) ≤ r / den := by
      rw [le_div_iff₀ hden']
      have : (den : ℚ) ≤ 2 * r := by exact_mod_cast (show den ≤ 2 * r by omega)
      linarith
    have hone : (r / den : ℚ) < 1 := by
      rw [div_lt_one hden']
      exact_mod_cast hmod
    push_cast
    constructor <;> linarith

/-! ## The search -/

namespace Interval

variable {i : Interval} {s : Scientific} {place : Int} {fuel count : Nat}

theorem gridPoint?_contains (h : i.gridPoint? e = some s) : i.contains s = true := by
  have hnearer (num den : Nat) : roundHalfEven num den = num / den ∨ roundHalfEven num den = num / den + 1 := by
    rw [roundHalfEven]
    split
    · exact .inl rfl
    · exact .inr rfl
  unfold gridPoint? at h
  dsimp only at h
  generalize i.value * Nat.pow 10 (-e).toNat = num at h
  generalize i.den * Nat.pow 10 e.toNat = den at h
  split at h <;> rename_i hbelow habove
  · obtain rfl := Option.some.inj h
    rcases hnearer num den with heq | heq <;> rw [heq]
    · exact hbelow
    · exact habove
  · obtain rfl := Option.some.inj h
    exact hbelow
  · obtain rfl := Option.some.inj h
    exact habove
  · cases h

/-- The search ends in the interval, or at the nearest point of the last grid. -/
theorem search_spec (hden : 0 < i.den) (place : Int) (fuel count : Nat) :
    i.contains (i.search place fuel count) = true ∨
      |(i.search place fuel count).toRat - i.value / i.den| ≤ 1 / 2 * 10 ^ (place - (count + fuel : Nat)) := by
  induction fuel generalizing count with
  | zero =>
    right
    have hpow : (0 : ℚ) < 10 ^ (place - count) := by positivity
    have hscaled := mul_pow_div_mul_pow (by decide : 0 < 10) i.value i.den (place - count)
    have hden' : 0 < i.den * 10 ^ (place - count).toNat := Nat.mul_pos hden (by positivity)
    have hclose : |(roundHalfEven (i.value * 10 ^ (-(place - count)).toNat) (i.den * 10 ^ (place - count).toNat) : ℚ) -
        (i.value * 10 ^ (-(place - count)).toNat : Nat) / (i.den * 10 ^ (place - count).toNat : Nat)| ≤ 1 / 2 :=
      abs_roundHalfEven_sub_le hden'
    rw [hscaled] at hclose
    have hneg : (count : Int) - place = -(place - count) := by omega
    have hsplit (r : ℚ) : r * 10 ^ (place - (count : Int)) - i.value / i.den =
        (r - i.value / i.den / 10 ^ (place - (count : Int))) * 10 ^ (place - (count : Int)) := by
      field_simp
    simp only [search, Scientific.toRat, Nat.pow_eq, hneg, add_zero]
    rw [hsplit, abs_mul, abs_of_pos hpow]
    gcongr
    exact_mod_cast hclose
  | succ fuel ih =>
    rw [search]
    cases h : i.gridPoint? (place - count) with
    | some s => exact .inl (gridPoint?_contains h)
    | none =>
      have hcount : count + (fuel + 1) = count + 1 + fuel := by omega
      rw [hcount]
      exact ih (count + 1)

/-- What it is to lie in an interval. -/
theorem contains_iff (hden : 0 < i.den) : i.contains s = true ↔
    (i.low / i.den : ℚ) ≤ s.toRat ∧ s.toRat ≤ (i.high / i.den : ℚ) ∧
      (i.closed = false → (i.low / i.den : ℚ) ≠ s.toRat ∧ s.toRat ≠ (i.high / i.den : ℚ)) := by
  have hden' : (0 : ℚ) < i.den := by exact_mod_cast hden
  have hscale : (0 : ℚ) < ((10 ^ (-s.exponent).toNat : Nat) : ℚ) := by positivity
  have hpoint : s.toRat = ((s.digits * 10 ^ s.exponent.toNat * i.den : Nat) : ℚ) /
      ((10 ^ (-s.exponent).toNat : Nat) * i.den) := by
    have hmoved := mul_pow_div_mul_pow (by decide : 0 < 10) s.digits 1 (-s.exponent)
    rw [neg_neg, one_mul, Nat.cast_one, div_one, zpow_neg, div_inv_eq_mul] at hmoved
    rw [Scientific.toRat, Nat.cast_mul _ i.den, mul_div_mul_right _ _ hden'.ne']
    exact_mod_cast hmoved.symm
  have hle (k : Nat) : (k / i.den : ℚ) ≤ s.toRat ↔
      k * 10 ^ (-s.exponent).toNat ≤ s.digits * 10 ^ s.exponent.toNat * i.den := by
    rw [hpoint, ← mul_div_mul_left (k : ℚ) _ hscale.ne', div_le_div_iff_of_pos_right (by positivity), mul_comm]
    norm_cast
  have hge (k : Nat) : s.toRat ≤ (k / i.den : ℚ) ↔
      s.digits * 10 ^ s.exponent.toNat * i.den ≤ k * 10 ^ (-s.exponent).toNat := by
    rw [hpoint, ← mul_div_mul_left (k : ℚ) _ hscale.ne', div_le_div_iff_of_pos_right (by positivity),
      mul_comm _ (k : ℚ)]
    norm_cast
  have hlow : (i.low / i.den : ℚ) = s.toRat ↔
      i.low * 10 ^ (-s.exponent).toNat = s.digits * 10 ^ s.exponent.toNat * i.den := by
    rw [le_antisymm_iff, le_antisymm_iff, hle, hge]
  have hhigh : s.toRat = (i.high / i.den : ℚ) ↔
      s.digits * 10 ^ s.exponent.toNat * i.den = i.high * 10 ^ (-s.exponent).toNat := by
    rw [le_antisymm_iff, le_antisymm_iff, hle, hge]
  rw [ne_eq, ne_eq, hlow, hhigh, hle, hge, contains]
  simp only [Nat.pow_eq]
  cases i.closed
  · simp only [Bool.false_eq_true, if_false, Bool.and_eq_true, decide_eq_true_eq, Nat.lt_iff_le_and_ne]
    tauto
  · simp

variable (m q)

theorem around_den_pos : 0 < (around m q).den :=
  Nat.pow_pos (by decide)

/-- So many quarters of the last bit. -/
theorem quarters_div (k : Nat) : (k * 2 ^ (q - 2).toNat : Nat) / ((around m q).den : ℚ) = k / 4 * 2 ^ q := by
  have hmoved := mul_pow_div_mul_pow (by decide : 0 < 2) k 1 (2 - q)
  have hneg : -(2 - q) = q - 2 := by omega
  have hden : (around m q).den = 1 * 2 ^ (2 - q).toNat := by simp [around]
  rw [hden, ← hneg, hmoved]
  have hfour : ((2 : Nat) : ℚ) ^ (2 - q) = 4 * (2 ^ q)⁻¹ := by
    rw [sub_eq_add_neg, zpow_add₀ (by norm_num), zpow_neg]
    norm_num
  rw [hfour]
  field_simp
  simp

theorem around_value : ((around m q).value / (around m q).den : ℚ) = m * 2 ^ q := by
  have hvalue : (around m q).value = 4 * m * 2 ^ (q - 2).toNat := rfl
  rw [hvalue, quarters_div]
  push_cast
  ring

theorem around_high : ((around m q).high / (around m q).den : ℚ) = (m + 1 / 2) * 2 ^ q := by
  have hhigh : (around m q).high = (4 * m + 2) * 2 ^ (q - 2).toNat := rfl
  rw [hhigh, quarters_div]
  push_cast
  ring

variable {m q}

theorem around_low (hm : 0 < m) : ((around m q).low / (around m q).den : ℚ) = (m - reach m q) * 2 ^ q := by
  have hlow : (around m q).low = (4 * m - if m = 2 ^ 52 ∧ minExponent < q then 1 else 2) * 2 ^ (q - 2).toNat := by
    simp [around]
  rw [hlow, quarters_div, reach]
  split
  · rw [Nat.cast_sub (by omega)]
    push_cast
    ring
  · rw [Nat.cast_sub (by omega)]
    push_cast
    ring

theorem around_closed : (around m q).closed = false ↔ m % 2 = 1 := by
  have hclosed : (around m q).closed = (m % 2 == 0) := rfl
  rw [hclosed, beq_eq_false_iff_ne]
  omega

end Interval

/-- The interval of the search is that of the magnitude. -/
theorem contains_around (hm : 0 < m) {s : Scientific} :
    (Interval.around m q).contains s = true ↔ IsNear s.toRat m q := by
  rw [Interval.contains_iff (Interval.around_den_pos m q), Interval.around_low hm, Interval.around_high,
    Interval.around_closed]
  exact ⟨fun h => ⟨h.1, h.2.1, h.2.2⟩, fun h => ⟨h.low, h.high, h.odd⟩⟩

/-! ## The shortest numeral -/

/-- A number that is closer to a magnitude than its interval reaches is in the interval. -/
theorem isNear_of_abs_sub_lt {r : ℚ} (h : |r - m * 2 ^ q| < reach m q * 2 ^ q) : IsNear r m q := by
  have hreach : reach m q * 2 ^ q ≤ (1 / 2 : ℚ) * 2 ^ q := by
    gcongr
    exact reach_le m q
  rw [abs_lt] at h
  have hlow : (m - reach m q) * 2 ^ q < r := by linarith
  have hhigh : r < (m + 1 / 2) * 2 ^ q := by linarith
  exact ⟨hlow.le, hhigh.le, fun _ => ⟨hlow.ne, hhigh.ne⟩⟩

/-- Half a step of the grid of seventeen digits is less than the interval of a magnitude reaches. -/
theorem seventeen_digits (h : IsMagnitude m q) {place : Int} (hplace : (10 : ℚ) ^ (place - 1) ≤ m * 2 ^ q) :
    (1 / 2 : ℚ) * 10 ^ (place - (17 : Nat)) < reach m q * 2 ^ q := by
  have hm : (m : ℚ) < 2 ^ 53 := by exact_mod_cast h.lt
  have hpow : (0 : ℚ) < 2 ^ q := by positivity
  have hstep : (10 : ℚ) ^ (place - (17 : Nat)) = 10 ^ (place - 1) / 10 ^ 16 := by
    rw [eq_div_iff (by norm_num), ← zpow_natCast, ← zpow_add₀ (by norm_num)]
    congr 1
    push_cast
    ring
  rw [hstep]
  calc (1 / 2 : ℚ) * (10 ^ (place - 1) / 10 ^ 16) ≤ (1 / 2 : ℚ) * (m * 2 ^ q / 10 ^ 16) := by gcongr
    _ = (m / (2 * 10 ^ 16) : ℚ) * 2 ^ q := by ring
    _ < reach m q * 2 ^ q := by
      gcongr
      rw [div_lt_iff₀ (by norm_num), reach]
      split
      · rename_i hpower
        rw [hpower.1]
        norm_num
      · norm_num at hm ⊢
        linarith

/-- The shortest numeral of a magnitude lies in its interval. -/
theorem isNear_shortest (h : IsMagnitude m q) (hm : 0 < m) : IsNear (shortest m q).toRat m q := by
  have hden := Interval.around_den_pos m q
  have hvalue := Interval.around_value m q
  have hpos : 0 < (Interval.around m q).value :=
    Nat.mul_pos (Nat.mul_pos (by decide) hm) (Nat.pow_pos (by decide))
  have hplace := zpow_leadingPlace_le hpos hden
  rw [hvalue] at hplace
  rw [shortest, if_neg (by simpa using hm.ne'), toRat_normalize]
  rcases Interval.search_spec hden (leadingPlace (Interval.around m q).value (Interval.around m q).den) 16 1 with
    hin | hclose
  · exact (contains_around hm).1 hin
  · rw [hvalue] at hclose
    exact isNear_of_abs_sub_lt (hclose.trans_lt (seventeen_digits h hplace))

end Runbook.Decimal
