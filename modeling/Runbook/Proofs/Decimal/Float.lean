import Mathlib
import Runbook.Proofs.Decimal.Nearest
import Runbook.Proofs.Decimal.Shortest

/-!
# Floating-point numbers and their bits

* `toNat_toBits` — the bits of a finite number are those of its sign and its magnitude.
* `nearest_of_isNear` — a floating-point number is the nearest to every number in the interval of its magnitude.
* `ofScientific_of_isNear` — so is what comes of a decimal number in that interval.
* `eq_of_ofFloat_nan`, `eq_of_ofFloat_infinite` — there is one number that is none, and one infinity of each sign.
-/

namespace Runbook.Decimal

variable {x : Float} {negative : Bool} {m : Nat} {q : Int}

/-- The bits of a finite number are those of its sign and its magnitude. -/
theorem toNat_toBits (h : Value.ofFloat x = .finite negative m q) :
    IsMagnitude m q ∧ x.toBits.toNat = magnitudeBits m q + if negative then Nat.pow 2 63 else 0 := by
  have hlt := x.toBits.toNat_lt
  unfold Value.ofFloat Value.ofBits at h
  simp only [Nat.pow_eq] at h ⊢
  generalize x.toBits.toNat = bits at h hlt ⊢
  have hsign : bits / 2 ^ 63 = 0 ∨ bits / 2 ^ 63 = 1 := by omega
  split at h
  · split at h <;> cases h
  · rename_i hinfinite
    split at h <;> rename_i hbiased <;> obtain ⟨rfl, rfl, rfl⟩ := Value.finite.inj h
    · refine ⟨⟨by omega, .inr rfl, by decide, by decide⟩, ?_⟩
      have hbiased : bits / 2 ^ 52 % 2 ^ 11 = 0 := by simpa using hbiased
      rw [magnitudeBits, if_pos (by omega)]
      rcases hsign with hs | hs <;> simp only [hs] <;> norm_num <;> omega
    · have hinfinite : bits / 2 ^ 52 % 2 ^ 11 ≠ 2047 := by simpa using hinfinite
      have hbiased : bits / 2 ^ 52 % 2 ^ 11 ≠ 0 := by simpa using hbiased
      refine ⟨⟨by omega, .inl (by omega), ?_, ?_⟩, ?_⟩
      · show (-1074 : Int) ≤ _
        omega
      · show _ ≤ (971 : Int)
        omega
      · rw [magnitudeBits, if_neg (by omega)]
        rcases hsign with hs | hs <;> simp only [hs] <;> norm_num <;> omega

/-- A floating-point number is the nearest to every number in the interval of its magnitude. -/
theorem nearest_of_isNear (h : Value.ofFloat x = .finite negative m q) (hm : 0 < m) {num den : Nat}
    (hden : 0 < den) (near : IsNear (num / den) m q) : nearest negative num den = x := by
  obtain ⟨hmagnitude, hbits⟩ := toNat_toBits h
  rw [nearest, nearestBits_of_isNear hmagnitude hm hden near, ← hbits, UInt64.ofNat_toNat, Float.ofBits_toBits]

/-- A zero is the zero of its sign. -/
theorem nearest_zero (h : Value.ofFloat x = .finite negative 0 q) : nearest negative 0 1 = x := by
  obtain ⟨-, hbits⟩ := toNat_toBits h
  have hzero : nearestBits 0 1 = magnitudeBits 0 q := rfl
  rw [nearest, hzero, ← hbits, UInt64.ofNat_toNat, Float.ofBits_toBits]

theorem two_zpow_le_ten_zpow : (2 : ℚ) ^ (1075 : Int) ≤ 10 ^ (400 : Int) := by
  calc (2 : ℚ) ^ (1075 : Int) ≤ 2 ^ (3 * 400 : Int) := zpow_le_zpow_right₀ (by norm_num) (by norm_num)
    _ = (2 ^ (3 : Int)) ^ (400 : Int) := zpow_mul 2 3 400
    _ ≤ 10 ^ (400 : Int) := zpow_le_zpow_left₀ (by norm_num) (by norm_num) (by norm_num)

/-- A decimal number in the interval of a magnitude has its leading place within the places that are read. -/
theorem place_of_isNear (h : IsMagnitude m q) (hm : 0 < m) {s : Scientific} (near : IsNear s.toRat m q) :
    -400 ≤ (digitCount s.digits : Int) + s.exponent ∧ (digitCount s.digits : Int) + s.exponent ≤ 400 := by
  have hten (n : Int) : (10 : ℚ) ^ (n + s.exponent) = 10 ^ n * 10 ^ s.exponent := zpow_add₀ (by norm_num) n _
  have hpow : (0 : ℚ) < 10 ^ s.exponent := by positivity
  have hdigits : 0 < s.digits := by
    have hpos := near.pos hm
    rw [Scientific.toRat, mul_pos_iff_of_pos_right hpow] at hpos
    exact_mod_cast hpos
  constructor
  · by_contra hlt
    have hm' : (1 : ℚ) ≤ m := by exact_mod_cast hm
    have hreach := reach_le m q
    have hsmall : s.toRat < 2 ^ (minExponent - 1) := by
      calc s.toRat < 10 ^ ((digitCount s.digits : Int) + s.exponent) := by
            rw [Scientific.toRat, hten]
            gcongr
            exact lt_zpow_digitCount s.digits
        _ ≤ 10 ^ (-400 : Int) := zpow_le_zpow_right₀ (by norm_num) (by omega)
        _ ≤ 2 ^ (minExponent - 1) := by
            show (10 : ℚ) ^ (-400 : Int) ≤ 2 ^ (-1075 : Int)
            rw [zpow_neg, zpow_neg]
            exact inv_anti₀ (by positivity) two_zpow_le_ten_zpow
    have hlarge : (2 : ℚ) ^ (minExponent - 1) ≤ s.toRat := by
      calc (2 : ℚ) ^ (minExponent - 1) = 1 / 2 * 2 ^ minExponent := by
            rw [zpow_sub_one₀ (by norm_num)]
            ring
        _ ≤ 1 / 2 * 2 ^ q := by
            gcongr
            · norm_num
            · exact h.low
        _ ≤ (m - reach m q) * 2 ^ q := by
            gcongr
            linarith
        _ ≤ s.toRat := near.low
    exact absurd hsmall hlarge.not_gt
  · by_contra hgt
    have hlt : (m : ℚ) + 1 ≤ 2 ^ 53 := by exact_mod_cast h.lt
    have hlarge : (10 : ℚ) ^ (400 : Int) ≤ s.toRat := by
      calc (10 : ℚ) ^ (400 : Int) ≤ 10 ^ ((digitCount s.digits : Int) - 1 + s.exponent) :=
            zpow_le_zpow_right₀ (by norm_num) (by omega)
        _ ≤ s.toRat := by
            rw [Scientific.toRat, hten]
            gcongr
            exact zpow_digitCount_le hdigits
    have hsmall : s.toRat < 10 ^ (400 : Int) := by
      calc s.toRat ≤ (m + 1 / 2) * 2 ^ q := near.high
        _ ≤ 2 ^ 53 * 2 ^ maxExponent := by
            gcongr
            · linarith
            · norm_num
            · exact h.high
        _ = 2 ^ (1024 : Int) := by
            rw [maxExponent, ← zpow_natCast, ← zpow_add₀ (by norm_num)]
            rfl
        _ < 2 ^ (1075 : Int) := zpow_lt_zpow_right₀ (by norm_num) (by norm_num)
        _ ≤ 10 ^ (400 : Int) := two_zpow_le_ten_zpow
    exact absurd hsmall hlarge.not_gt

/-- A floating-point number is what comes of every decimal number in the interval of its magnitude. -/
theorem ofScientific_of_isNear (h : Value.ofFloat x = .finite negative m q) (hm : 0 < m) {s : Scientific}
    (near : IsNear s.toRat m q) : ofScientific negative s.digits s.exponent = x := by
  obtain ⟨hlow, hhigh⟩ := place_of_isNear (toNat_toBits h).1 hm near
  have hdigits : s.digits ≠ 0 := by
    intro hzero
    have hpos := near.pos hm
    rw [Scientific.toRat, hzero, Nat.cast_zero, zero_mul] at hpos
    exact hpos.false
  have hmoved := mul_pow_div_mul_pow (by decide : 0 < 10) s.digits 1 (-s.exponent)
  rw [neg_neg, one_mul, Nat.cast_one, div_one, zpow_neg, div_inv_eq_mul] at hmoved
  have hnearest : nearest negative (s.digits * 10 ^ s.exponent.toNat) (10 ^ (-s.exponent).toNat) = x := by
    refine nearest_of_isNear h hm (Nat.pow_pos (by decide)) ?_
    rw [hmoved]
    exact_mod_cast near
  rw [digitCount] at hlow hhigh
  simpa [ofScientific, hdigits, Int.not_lt.2 hlow, Int.not_lt.2 hhigh] using hnearest

/-- There is one number that is none. -/
theorem eq_of_ofFloat_nan (h : Value.ofFloat x = .nan) : x = 0.0 / 0.0 := by
  have hfields : x.toBits.toNat / 2 ^ 52 % 2 ^ 11 = 2047 ∧ x.toBits.toNat % 2 ^ 52 ≠ 0 := by
    unfold Value.ofFloat Value.ofBits at h
    simp only [Nat.pow_eq] at h
    split at h
    · rename_i hbiased
      split at h
      · cases h
      · rename_i hfraction
        exact ⟨by simpa using hbiased, by simpa using hfraction⟩
    · split at h <;> cases h
  have hpacked : x.toBits.toBitVec = Float.Model.UnpackedFloat.packedNaN .binary64 := by
    refine x.toModel.valid.eq_packedNaN ?_ fun hzero => hfields.2 ?_
    · refine BitVec.eq_of_toNat_eq ?_
      simpa [Float.toBits, Float.Model.UnpackedFloat.unpackExponent, Nat.shiftRight_eq_div_pow] using hfields.1
    · simpa [Float.toBits, Float.Model.UnpackedFloat.unpackMantissa] using congrArg BitVec.toNat hzero
  have hnan : (0.0 / 0.0 : Float).toBits.toBitVec = Float.Model.UnpackedFloat.packedNaN .binary64 := by decide
  rw [← Float.toBits_inj, ← UInt64.toBitVec_inj, hpacked, hnan]

/-- There is one infinity of each sign. -/
theorem eq_of_ofFloat_infinite (h : Value.ofFloat x = .infinite negative) :
    x = (if negative then -1.0 else 1.0) / 0.0 := by
  have hlt := x.toBits.toNat_lt
  have hbits : x.toBits.toNat = 2047 * 2 ^ 52 + if negative then 2 ^ 63 else 0 := by
    unfold Value.ofFloat Value.ofBits at h
    simp only [Nat.pow_eq] at h
    generalize x.toBits.toNat = bits at h hlt ⊢
    split at h
    · rename_i hbiased
      split at h
      · rename_i hfraction
        obtain rfl := Value.infinite.inj h
        have hbiased : bits / 2 ^ 52 % 2 ^ 11 = 2047 := by simpa using hbiased
        have hfraction : bits % 2 ^ 52 = 0 := by simpa using hfraction
        have hsign : bits / 2 ^ 63 = 0 ∨ bits / 2 ^ 63 = 1 := by omega
        rcases hsign with hs | hs <;> simp only [hs] <;> norm_num <;> omega
      · cases h
    · split at h <;> cases h
  rw [← Float.toBits_inj, ← UInt64.toNat_inj, hbits]
  cases negative <;> decide

end Runbook.Decimal
