import Mathlib.Algebra.Order.Field.Power
import Mathlib.Data.Rat.Cast.Order
import Mathlib.Tactic.GCongr
import Mathlib.Tactic.Linarith
import Mathlib.Tactic.Positivity
import Runbook.Decimal.Reading

/-!
# The nearest floating-point number

Every magnitude `mantissa * 2 ^ exponent` has an interval around it: the numbers of which it is the nearest
magnitude (`IsNear`). `nearestBits_of_isNear` says that rounding takes all of them to it, and `nearest_of_isNear`
that a floating-point number is what comes of any number in its interval.

Rounding works on quotients of natural numbers; here they are rational numbers.
-/

namespace Runbook.Decimal

variable {num den k : Nat}

/-! ## Rounding to a natural number -/

theorem roundHalfEven_eq (hden : 0 < den) (hlow : 2 * (k * den) ≤ 2 * num + den)
    (hhigh : 2 * num ≤ 2 * (k * den) + den)
    (htie : k % 2 = 1 → 2 * (k * den) ≠ 2 * num + den ∧ 2 * num ≠ 2 * (k * den) + den) :
    roundHalfEven num den = k := by
  have hnum := Nat.div_add_mod' num den
  have hmod := Nat.mod_lt num hden
  simp only [roundHalfEven]
  generalize num / den = n at hnum ⊢
  generalize num % den = r at hnum hmod ⊢
  -- the quotient is `k`, or one less
  have hle : k ≤ n + 1 := by
    by_contra hlt
    have := Nat.mul_le_mul_right den (show n + 2 ≤ k by omega)
    rw [Nat.add_mul] at this
    omega
  have hge : n ≤ k := by
    by_contra hlt
    have := Nat.mul_le_mul_right den (show k + 1 ≤ n by omega)
    rw [Nat.add_mul] at this
    omega
  obtain rfl | rfl : k = n ∨ k = n + 1 := by omega
  · split <;> rename_i h <;> simp only [Bool.or_eq_true, Bool.and_eq_true, decide_eq_true_eq, beq_iff_eq] at h
    · rfl
    · omega
  · rw [Nat.add_mul] at hlow hhigh htie
    split <;> rename_i h <;> simp only [Bool.or_eq_true, Bool.and_eq_true, decide_eq_true_eq, beq_iff_eq] at h
    · omega
    · rfl

/-- Half a unit below or above a natural number it is still the nearest, but half a unit only if it is even. -/
theorem roundHalfEven_of_near (hden : 0 < den) (hlow : (k : ℚ) - 1 / 2 ≤ num / den)
    (hhigh : (num / den : ℚ) ≤ k + 1 / 2)
    (htie : k % 2 = 1 → (k : ℚ) - 1 / 2 ≠ num / den ∧ (num / den : ℚ) ≠ k + 1 / 2) :
    roundHalfEven num den = k := by
  have hden' : (0 : ℚ) < den := by exact_mod_cast hden
  refine roundHalfEven_eq hden ?_ ?_ fun hodd => ⟨fun heq => (htie hodd).1 ?_, fun heq => (htie hodd).2 ?_⟩
  · rw [le_div_iff₀ hden'] at hlow
    have : (2 * (k * den) : ℚ) ≤ 2 * num + den := by linarith
    exact_mod_cast this
  · rw [div_le_iff₀ hden'] at hhigh
    have : (2 * num : ℚ) ≤ 2 * (k * den) + den := by linarith
    exact_mod_cast this
  · have : (2 * (k * den) : ℚ) = 2 * num + den := by exact_mod_cast heq
    rw [eq_div_iff hden'.ne']
    linarith
  · have : (2 * num : ℚ) = 2 * (k * den) + den := by exact_mod_cast heq
    rw [div_eq_iff hden'.ne']
    linarith

/-! ## Powers -/

/-- A quotient moved by powers of a base, as natural numbers do it. -/
theorem mul_pow_div_mul_pow {base : Nat} (h : 0 < base) (num den : Nat) (e : Int) :
    ((num * base ^ (-e).toNat : Nat) / (den * base ^ e.toNat : Nat) : ℚ) = num / den / (base : ℚ) ^ e := by
  have hbase : (base : ℚ) ≠ 0 := by exact_mod_cast h.ne'
  push_cast
  rcases Int.le_total 0 e with he | he
  · obtain ⟨n, rfl⟩ := Int.eq_ofNat_of_zero_le he
    simp [div_div]
  · obtain ⟨n, hn⟩ := Int.eq_ofNat_of_zero_le (Int.neg_nonneg.2 he)
    obtain rfl : e = -n := by omega
    simp [div_mul_eq_mul_div]

theorem scaled_pos (h : 0 < den) (num : Nat) (e : Int) : 0 < (scaled num den e).2 :=
  Nat.mul_pos h (Nat.pow_pos (by decide))

theorem scaled_div (num den : Nat) (e : Int) :
    ((scaled num den e).1 / (scaled num den e).2 : ℚ) = num / den / 2 ^ e :=
  mul_pow_div_mul_pow (by decide) num den e

theorem floorLog2_spec (hnum : 0 < num) (hden : 0 < den) :
    (2 : ℚ) ^ floorLog2 num den ≤ num / den ∧ (num / den : ℚ) < 2 ^ (floorLog2 num den + 1) := by
  have hden' : (0 : ℚ) < den := by exact_mod_cast hden
  have hlow (n : Nat) (hn : 0 < n) : (2 : ℚ) ^ (n.log2 : Int) ≤ n := by
    exact_mod_cast Nat.log2_self_le hn.ne'
  have hhigh (n : Nat) : (n : ℚ) < 2 ^ ((n.log2 : Int) + 1) := by
    exact_mod_cast Nat.lt_log2_self (n := n)
  let guess : Int := (num.log2 : Int) - den.log2
  have habove : (num / den : ℚ) < 2 ^ (guess + 1) := by
    rw [div_lt_iff₀ hden']
    calc (num : ℚ) < 2 ^ ((num.log2 : Int) + 1) := hhigh num
      _ = 2 ^ (guess + 1) * 2 ^ (den.log2 : Int) := by rw [← zpow_add₀ (by norm_num)]; congr 1; omega
      _ ≤ 2 ^ (guess + 1) * den := by gcongr; exact hlow den hden
  have hbelow : (2 : ℚ) ^ (guess - 1) ≤ num / den := by
    rw [le_div_iff₀ hden']
    calc (2 : ℚ) ^ (guess - 1) * den ≤ 2 ^ (guess - 1) * 2 ^ ((den.log2 : Int) + 1) := by
          gcongr; exact (hhigh den).le
      _ = 2 ^ (num.log2 : Int) := by rw [← zpow_add₀ (by norm_num)]; congr 1; omega
      _ ≤ num := hlow num hnum
  have hscaled := scaled_div num den guess
  have hpos : (0 : ℚ) < (scaled num den guess).2 := by exact_mod_cast scaled_pos hden num guess
  have hfloor : floorLog2 num den = if (scaled num den guess).2 ≤ (scaled num den guess).1 then guess else guess - 1 :=
    rfl
  rw [hfloor]
  split <;> rename_i h
  · have hone : (1 : ℚ) ≤ num / den / 2 ^ guess := by
      rw [← hscaled, le_div_iff₀ hpos, one_mul]
      exact_mod_cast h
    rw [le_div_iff₀ (by positivity), one_mul] at hone
    exact ⟨hone, habove⟩
  · have hone : (num / den / 2 ^ guess : ℚ) < 1 := by
      rw [← hscaled, div_lt_iff₀ hpos, one_mul]
      exact_mod_cast Nat.not_le.1 h
    rw [div_lt_iff₀ (by positivity), one_mul] at hone
    exact ⟨hbelow, by rwa [sub_add_cancel]⟩

/-! ## Magnitudes and their intervals -/

/-- The mantissas and exponents of floating-point numbers: a mantissa has all its bits, unless the exponent is the
least one. -/
structure IsMagnitude (m : Nat) (q : Int) : Prop where
  lt : m < 2 ^ 53
  full : 2 ^ 52 ≤ m ∨ q = minExponent
  low : minExponent ≤ q
  high : q ≤ maxExponent

/-- The bits of a magnitude. -/
def magnitudeBits (m : Nat) (q : Int) : Nat :=
  if m < 2 ^ 52 then m else (q + 1075).toNat * 2 ^ 52 + (m - 2 ^ 52)

/-- How far the interval of a magnitude reaches below it, in units of its last bit. Below a power of two the
neighbour is nearer. -/
def reach (m : Nat) (q : Int) : ℚ :=
  if m = 2 ^ 52 ∧ minExponent < q then 1 / 4 else 1 / 2

/-- The numbers of which a magnitude is the nearest one. The ends belong to it if its mantissa is even. -/
structure IsNear (r : ℚ) (m : Nat) (q : Int) : Prop where
  low : (m - reach m q) * 2 ^ q ≤ r
  high : r ≤ (m + 1 / 2) * 2 ^ q
  odd : m % 2 = 1 → (m - reach m q) * 2 ^ q ≠ r ∧ r ≠ (m + 1 / 2) * 2 ^ q

variable {m : Nat} {q : Int} {r : ℚ}

theorem reach_le (m : Nat) (q : Int) : reach m q ≤ 1 / 2 := by
  unfold reach
  split <;> norm_num

theorem IsNear.pos (h : IsNear r m q) (hm : 0 < m) : 0 < r := by
  have hm' : (1 : ℚ) ≤ m := by exact_mod_cast hm
  have hlow : (0 : ℚ) < m - reach m q := by linarith [reach_le m q]
  exact (mul_pos hlow (by positivity)).trans_le h.low

theorem magnitudeBits_le (h : IsMagnitude m q) : magnitudeBits m q < 2047 * 2 ^ 52 := by
  have hlt := h.lt
  have hhigh : q ≤ 971 := h.high
  unfold magnitudeBits
  split <;> omega

/-- A number in the interval of a magnitude has its last place where the magnitude has it, or is just below a power
of two and has it one place further down. -/
theorem exponent_of_isNear (h : IsMagnitude m q) (near : IsNear r m q) {e : Int} (hlow : (2 : ℚ) ^ e ≤ r)
    (hhigh : r < 2 ^ (e + 1)) :
    max (e - 52) minExponent = q ∨
      m = 2 ^ 52 ∧ minExponent < q ∧ max (e - 52) minExponent = q - 1 ∧ r < 2 ^ (52 + q) := by
  have hm : (m : ℚ) + 1 ≤ 2 ^ 53 := by exact_mod_cast h.lt
  have hreach := reach_le m q
  have hpow : (0 : ℚ) < 2 ^ q := by positivity
  have hsplit (n : Int) : (2 : ℚ) ^ (n + q) = 2 ^ n * 2 ^ q := zpow_add₀ (by norm_num) n q
  have hupper : e < 53 + q := by
    rw [← zpow_lt_zpow_iff_right₀ (by norm_num : (1 : ℚ) < 2), hsplit]
    calc (2 : ℚ) ^ e ≤ r := hlow
      _ ≤ (m + 1 / 2) * 2 ^ q := near.high
      _ < 2 ^ (53 : Int) * 2 ^ q := by gcongr; norm_num at hm ⊢; linarith
  have hmin := h.low
  rcases le_or_gt (52 + q) e with hge | hlt
  · left
    omega
  · have hbelow : r < 2 ^ (52 + q) := hhigh.trans_le ((zpow_le_zpow_iff_right₀ (by norm_num)).2 (by omega))
    rcases eq_or_lt_of_le hmin with heq | hgt
    · left
      omega
    · -- the mantissa has all its bits, and the number is below it
      have hfull : 2 ^ 52 ≤ m := h.full.resolve_right hgt.ne'
      have hx : (m - reach m q : ℚ) < 2 ^ (52 : Int) := by
        have := near.low.trans_lt hbelow
        rw [hsplit] at this
        exact lt_of_mul_lt_mul_right this hpow.le
      have hm52 : m = 2 ^ 52 := by
        have hcast : (2 : ℚ) ^ (52 : Int) = 2 ^ 52 := zpow_natCast 2 52
        have hlt : (m : ℚ) < 2 ^ 52 + 1 := by linarith
        have : m < 2 ^ 52 + 1 := by exact_mod_cast hlt
        omega
      have hlower : 51 + q < e + 1 := by
        rw [← zpow_lt_zpow_iff_right₀ (by norm_num : (1 : ℚ) < 2), hsplit]
        calc (2 : ℚ) ^ (51 : Int) * 2 ^ q ≤ (m - reach m q) * 2 ^ q := by
              gcongr; rw [hm52] at hreach ⊢; push_cast; norm_num at hreach ⊢; linarith
          _ ≤ r := near.low
          _ < 2 ^ (e + 1) := hhigh
      refine .inr ⟨hm52, hgt, ?_, hbelow⟩
      omega

/-- Every number in the interval of a magnitude is rounded to it. -/
theorem nearestBits_of_isNear (h : IsMagnitude m q) (hm : 0 < m) (hden : 0 < den)
    (near : IsNear (num / den) m q) : nearestBits num den = magnitudeBits m q := by
  have hnum : 0 < num := by
    rw [Nat.pos_iff_ne_zero]
    rintro rfl
    simpa using near.pos hm
  obtain ⟨hlow, hhigh⟩ := floorLog2_spec hnum hden
  have hpow : (0 : ℚ) < 2 ^ q := by positivity
  have hbits (e : Int) (he : max (floorLog2 num den - 52) minExponent = e) (k : Nat)
      (hk : roundHalfEven (scaled num den e).1 (scaled num den e).2 = k)
      (hsame : magnitudeBits k e = magnitudeBits m q) : nearestBits num den = magnitudeBits m q := by
    have hne : (num == 0) = false := by simpa using hnum.ne'
    have hmin := magnitudeBits_le h
    simp only [nearestBits, hne, Bool.false_eq_true, if_false, he, hk, Nat.pow_eq]
    rw [← hsame] at hmin ⊢
    exact min_eq_left hmin.le
  rcases exponent_of_isNear h near hlow hhigh with he | ⟨rfl, hgt, he, hbelow⟩
  · refine hbits q he m (roundHalfEven_of_near (scaled_pos hden num q) ?_ ?_ fun hodd => ⟨?_, ?_⟩) rfl
    all_goals rw [scaled_div]
    · rw [le_div_iff₀ hpow]
      refine le_trans ?_ near.low
      gcongr
      exact reach_le m q
    · rw [div_le_iff₀ hpow]
      exact near.high
    · -- the mantissa is odd, so the interval reaches half a unit below it
      have hreach : reach m q = 1 / 2 := if_neg fun hpower => by omega
      rw [ne_eq, eq_div_iff hpow.ne', ← hreach]
      exact (near.odd hodd).1
    · rw [ne_eq, div_eq_iff hpow.ne']
      exact (near.odd hodd).2
  · have hreach : reach (2 ^ 52) q = 1 / 4 := if_pos ⟨rfl, hgt⟩
    have hnear := near.low
    rw [hreach] at hnear
    have hhalf : (2 : ℚ) ^ q = 2 ^ (q - 1) * 2 := by
      rw [← zpow_add_one₀ (by norm_num), sub_add_cancel]
    have hpow' : (0 : ℚ) < 2 ^ (q - 1) := by positivity
    have hlow' : ((2 ^ 53 : Nat) : ℚ) - 1 / 2 ≤ num / den / 2 ^ (q - 1) := by
      rw [le_div_iff₀ hpow']
      rw [hhalf] at hnear
      push_cast at hnear ⊢
      linarith
    have hhigh' : (num / den / 2 ^ (q - 1) : ℚ) < (2 ^ 53 : Nat) := by
      rw [div_lt_iff₀ hpow']
      rw [zpow_add₀ (by norm_num), hhalf] at hbelow
      norm_num at hbelow ⊢
      linarith
    refine hbits (q - 1) he (2 ^ 53) (roundHalfEven_of_near (scaled_pos hden num (q - 1)) ?_ ?_ ?_) ?_
    · rw [scaled_div]
      exact hlow'
    · rw [scaled_div]
      linarith
    · exact fun hodd => absurd hodd (by decide)
    · have hgt : -1074 < q := hgt
      rw [magnitudeBits, magnitudeBits, if_neg (by norm_num), if_neg (by norm_num)]
      omega

end Runbook.Decimal
