import Runbook.Proofs.Decimal.Order
import Runbook.Proofs.Json.Scalar

/-!
# Integers as floating-point numbers

Of an integer the nearest floating-point number keeps 53 bits (`nearestNat`, `nearestInt`).

* `nearestNat_mul_pow` — a number with 53 bits at most, zeros at the end not counted, is kept.
* `nearestNat_mono` — rounding keeps the order, but may make different numbers equal.
* `ofFloat_nearest_finite`, `ofFloat_nearest_infinite` — the nearest number to an integer stands for what is kept of it,
  if that is less than `2 ^ 1024`, and is an infinity otherwise.
* `toInt?_nearest`, `isFinite_nearest`, `nearest_lt_nearest` — so it is read back as that, is finite if it is within the
  bound, and is compared as that.
-/

namespace Runbook.Decimal

variable {num num' den k n n' : Nat}

/-! ## Rounding quotients -/

theorem le_roundHalfEven (num den : Nat) :
    num / den ≤ roundHalfEven num den ∧ roundHalfEven num den ≤ num / den + 1 := by
  simp only [roundHalfEven]
  split
  · exact ⟨le_rfl, Nat.le_succ _⟩
  · exact ⟨Nat.le_succ _, le_rfl⟩

/-- A multiple is rounded to its factor. -/
theorem roundHalfEven_mul (h : 0 < den) (k : Nat) : roundHalfEven (k * den) den = k :=
  roundHalfEven_eq h (by omega) (by omega) fun _ => by omega

theorem roundHalfEven_mono (h : num ≤ num') (den : Nat) : roundHalfEven num den ≤ roundHalfEven num' den := by
  rcases Nat.eq_or_lt_of_le (Nat.div_le_div_right (c := den) h) with hsame | hless
  · -- with the same quotient the remainders have the same order
    have hnum := Nat.div_add_mod num den
    have hnum' := Nat.div_add_mod num' den
    simp only [roundHalfEven, hsame]
    rw [hsame] at hnum
    split <;> rename_i hdown <;> split <;> rename_i hdown' <;>
      simp only [Bool.or_eq_true, Bool.and_eq_true, decide_eq_true_eq, beq_iff_eq] at hdown hdown' <;> omega
  · exact (le_roundHalfEven num den).2.trans (Nat.le_trans hless (le_roundHalfEven num' den).1)

/-! ## What is kept of a natural number -/

/-- What the nearest floating-point number keeps of a natural number: 53 bits. -/
def nearestNat (n : Nat) : Nat :=
  roundHalfEven n (2 ^ (n.log2 - 52)) * 2 ^ (n.log2 - 52)

theorem nearestNat_zero : nearestNat 0 = 0 := rfl

theorem nearestNat_of_dvd (h : 2 ^ (n.log2 - 52) ∣ n) : nearestNat n = n := by
  obtain ⟨k, hk⟩ := h
  rw [nearestNat]
  generalize n.log2 - 52 = e at hk ⊢
  rw [hk, Nat.mul_comm (2 ^ e) k, roundHalfEven_mul (by positivity)]

/-- A number of 53 bits at most is kept, and so are its products with powers of two. -/
theorem nearestNat_mul_pow (h : k ≤ 2 ^ 53) (j : Nat) : nearestNat (k * 2 ^ j) = k * 2 ^ j := by
  have hless {k j : Nat} (h : k < 2 ^ 53) : nearestNat (k * 2 ^ j) = k * 2 ^ j := by
    refine nearestNat_of_dvd ?_
    have hlog : (k * 2 ^ j).log2 - 52 ≤ j := by
      rcases Nat.eq_zero_or_pos k with rfl | hk
      · simp
      · have hlt : (k * 2 ^ j).log2 < 53 + j := by
          rw [Nat.log2_lt (by positivity), pow_add]
          exact Nat.mul_lt_mul_of_pos_right h (by positivity)
        omega
    exact (Nat.pow_dvd_pow 2 hlog).trans (Nat.dvd_mul_left _ _)
  rcases Nat.eq_or_lt_of_le h with rfl | hlt
  · have hpow : 2 ^ 53 * 2 ^ j = 2 ^ 52 * 2 ^ (j + 1) := by ring
    rw [hpow, hless (by norm_num)]
  · exact hless hlt

theorem nearestNat_of_le (h : n ≤ 2 ^ 53) : nearestNat n = n := by
  have hkept := nearestNat_mul_pow h 0
  rwa [pow_zero, Nat.mul_one] at hkept

theorem nearestNat_two_pow (j : Nat) : nearestNat (2 ^ j) = 2 ^ j := by
  have hkept := nearestNat_mul_pow (by norm_num : 1 ≤ 2 ^ 53) j
  rwa [Nat.one_mul] at hkept

/-- What is kept of a number has as many bits as it, or is the power of two after it. -/
theorem nearestNat_bounds (h : 0 < n) : 2 ^ n.log2 ≤ nearestNat n ∧ nearestNat n ≤ 2 ^ (n.log2 + 1) := by
  have hpow {k : Nat} (hk : n.log2 ≤ k) : roundHalfEven (2 ^ k) (2 ^ (n.log2 - 52)) * 2 ^ (n.log2 - 52) = 2 ^ k := by
    have hsplit : 2 ^ k = 2 ^ (k - (n.log2 - 52)) * 2 ^ (n.log2 - 52) := by
      rw [← pow_add]
      congr 1
      omega
    rw [hsplit, roundHalfEven_mul (by positivity)]
  constructor
  · rw [← hpow le_rfl]
    exact Nat.mul_le_mul_right _ (roundHalfEven_mono (Nat.log2_self_le h.ne') _)
  · rw [← hpow (Nat.le_succ _)]
    exact Nat.mul_le_mul_right _ (roundHalfEven_mono Nat.lt_log2_self.le _)

/-- Rounding keeps the order. -/
theorem nearestNat_mono (h : n ≤ n') : nearestNat n ≤ nearestNat n' := by
  rcases Nat.eq_zero_or_pos n with rfl | hn
  · rw [nearestNat_zero]
    exact Nat.zero_le _
  have hn' : 0 < n' := hn.trans_le h
  have hlog : n.log2 ≤ n'.log2 := (Nat.le_log2 hn'.ne').2 ((Nat.log2_self_le hn.ne').trans h)
  rcases Nat.eq_or_lt_of_le hlog with hsame | hless
  · rw [nearestNat, nearestNat, hsame]
    exact Nat.mul_le_mul_right _ (roundHalfEven_mono h _)
  · calc nearestNat n ≤ 2 ^ (n.log2 + 1) := (nearestNat_bounds hn).2
      _ ≤ 2 ^ n'.log2 := Nat.pow_le_pow_right (by decide) hless
      _ ≤ nearestNat n' := (nearestNat_bounds hn').1

/-- What is kept is kept. -/
theorem nearestNat_nearestNat (n : Nat) : nearestNat (nearestNat n) = nearestNat n := by
  refine nearestNat_mul_pow ?_ (n.log2 - 52)
  have hle : n ≤ 2 ^ 53 * 2 ^ (n.log2 - 52) := by
    calc n ≤ 2 ^ (n.log2 + 1) := Nat.lt_log2_self.le
      _ ≤ 2 ^ (53 + (n.log2 - 52)) := Nat.pow_le_pow_right (by decide) (by omega)
      _ = 2 ^ 53 * 2 ^ (n.log2 - 52) := pow_add 2 53 _
  have hround := roundHalfEven_mono hle (2 ^ (n.log2 - 52))
  rwa [roundHalfEven_mul (by positivity)] at hround

/-! ## The magnitude of a natural number -/

theorem floorLog2_one (h : 0 < n) : floorLog2 n 1 = n.log2 := by
  obtain ⟨hlow, hhigh⟩ := floorLog2_spec h Nat.one_pos
  rw [Nat.cast_one, div_one] at hlow hhigh
  have hlow' : (2 : ℚ) ^ (n.log2 : Int) ≤ n := by exact_mod_cast Nat.log2_self_le h.ne'
  have hhigh' : (n : ℚ) < 2 ^ ((n.log2 : Int) + 1) := by exact_mod_cast Nat.lt_log2_self (n := n)
  have hle := (zpow_lt_zpow_iff_right₀ (by norm_num : (1 : ℚ) < 2)).1 (hlow.trans_lt hhigh')
  have hge := (zpow_lt_zpow_iff_right₀ (by norm_num : (1 : ℚ) < 2)).1 (hlow'.trans_lt hhigh)
  omega

/-- The first 53 bits of a number, rounded, are what is kept of it. -/
theorem significand_value (n : Nat) {e : Int} (he : e = (n.log2 : Int) - 52) :
    (roundHalfEven (scaled n 1 e).1 (scaled n 1 e).2 * 2 ^ e : ℚ) = nearestNat n := by
  rw [scaled]
  rcases Nat.le_total n.log2 52 with hsmall | hlarge
  · have hkept : nearestNat n = n := nearestNat_of_dvd (by rw [Nat.sub_eq_zero_of_le hsmall]; exact one_dvd n)
    have hneg : e = -((52 - n.log2 : Nat) : Int) := by omega
    have hround := roundHalfEven_mul Nat.one_pos (n * 2 ^ (52 - n.log2))
    rw [hkept, hneg]
    simp only [Nat.pow_eq, neg_neg, Int.toNat_natCast, Int.toNat_neg_natCast, pow_zero, mul_one] at hround ⊢
    rw [hround, zpow_neg, zpow_natCast, Nat.cast_mul, Nat.cast_pow, Nat.cast_ofNat]
    field_simp
  · have hpos : e = ((n.log2 - 52 : Nat) : Int) := by omega
    rw [nearestNat, hpos]
    simp only [Nat.pow_eq, Int.toNat_natCast, Int.toNat_neg_natCast, pow_zero, mul_one, one_mul]
    push_cast
    rw [zpow_natCast]

/-- The magnitude of a number may be too large for its exponent, and then its bits are cut off. -/
theorem exists_magnitude (h : 0 < n) : ∃ (m : Nat) (q : Int), 2 ^ 52 ≤ m ∧ m < 2 ^ 53 ∧ -52 ≤ q ∧
    (m * 2 ^ q : ℚ) = nearestNat n ∧ nearestBits n 1 = min (magnitudeBits m q) (2047 * 2 ^ 52) := by
  obtain ⟨e, he⟩ : ∃ e : Int, e = (n.log2 : Int) - 52 := ⟨_, rfl⟩
  have hvalue := significand_value n he
  have hbits : nearestBits n 1 = min (if roundHalfEven (scaled n 1 e).1 (scaled n 1 e).2 < 2 ^ 52
      then roundHalfEven (scaled n 1 e).1 (scaled n 1 e).2
      else (e + 1075).toNat * 2 ^ 52 + (roundHalfEven (scaled n 1 e).1 (scaled n 1 e).2 - 2 ^ 52))
        (2047 * 2 ^ 52) := by
    have hmax : max (floorLog2 n 1 - 52) minExponent = e := by
      rw [floorLog2_one h, he]
      exact max_eq_left (by show (-1074 : Int) ≤ _; omega)
    have hne : (n == 0) = false := by simpa using h.ne'
    simp only [nearestBits, hne, Bool.false_eq_true, if_false, hmax, Nat.pow_eq]
  generalize roundHalfEven (scaled n 1 e).1 (scaled n 1 e).2 = m at hvalue hbits
  obtain ⟨hlow, hhigh⟩ := nearestNat_bounds h
  have hpow : (0 : ℚ) < 2 ^ e := by positivity
  have hsplit {k j : Nat} (hk : (k : Int) = j + e) : ((2 ^ k : Nat) : ℚ) = (2 ^ j : Nat) * 2 ^ e := by
    push_cast
    rw [← zpow_natCast, ← zpow_natCast, hk, zpow_add₀ (by norm_num)]
  have hle : 2 ^ 52 ≤ m := by
    have hcast : ((2 ^ n.log2 : Nat) : ℚ) ≤ nearestNat n := by exact_mod_cast hlow
    rw [hsplit (j := 52) (by omega), ← hvalue] at hcast
    exact_mod_cast le_of_mul_le_mul_right hcast hpow
  have hge : m ≤ 2 ^ 53 := by
    have hcast : (nearestNat n : ℚ) ≤ (2 ^ (n.log2 + 1) : Nat) := by exact_mod_cast hhigh
    rw [hsplit (j := 53) (by omega), ← hvalue] at hcast
    exact_mod_cast le_of_mul_le_mul_right hcast hpow
  rw [if_neg (Nat.not_lt.2 hle)] at hbits
  rcases Nat.eq_or_lt_of_le hge with rfl | hlt
  · refine ⟨2 ^ 52, e + 1, le_rfl, by norm_num, by omega, ?_, ?_⟩
    · rw [← hvalue, zpow_add_one₀ (by norm_num)]
      push_cast
      ring
    · have hcarry : (e + 1075).toNat * 2 ^ 52 + (2 ^ 53 - 2 ^ 52) =
          (e + 1 + 1075).toNat * 2 ^ 52 + (2 ^ 52 - 2 ^ 52) := by omega
      rw [hbits, magnitudeBits, if_neg (by norm_num), hcarry]
  · refine ⟨m, e, hle, hlt, by omega, hvalue, ?_⟩
    rw [hbits, magnitudeBits, if_neg (Nat.not_lt.2 hle)]

/-! ## The floating-point number of an integer -/

/-- With all its bits a magnitude is less than `2 ^ 1024` exactly if its exponent is not too large. -/
theorem lt_two_pow_iff {m : Nat} {q : Int} (hfull : 2 ^ 52 ≤ m) (hlt : m < 2 ^ 53) :
    (m * 2 ^ q : ℚ) < 2 ^ (1024 : Int) ↔ q ≤ maxExponent := by
  have hpow : (0 : ℚ) < 2 ^ q := by positivity
  constructor
  · intro h
    have hle : (2 : ℚ) ^ (52 + q) ≤ m * 2 ^ q := by
      rw [zpow_add₀ (by norm_num)]
      gcongr
      exact_mod_cast hfull
    have hexponent := (zpow_lt_zpow_iff_right₀ (by norm_num : (1 : ℚ) < 2)).1 (hle.trans_lt h)
    show q ≤ 971
    omega
  · intro hq
    calc (m * 2 ^ q : ℚ) < 2 ^ (53 : Int) * 2 ^ q := by
          gcongr
          exact_mod_cast hlt
      _ ≤ 2 ^ (53 : Int) * 2 ^ maxExponent := by
          gcongr
          norm_num
      _ = 2 ^ (1024 : Int) := by rw [← zpow_add₀ (by norm_num)]; rfl

/-- The nearest floating-point number stands for what its bits stand for. -/
theorem ofFloat_nearest {bits : Nat} {value : Value} {negative : Bool} (hbits : nearestBits n 1 = bits)
    (hlt : bits < 2 ^ 63) (hvalue : Value.ofBits (bits + if negative then 2 ^ 63 else 0) = value)
    (hne : value ≠ .nan) : Value.ofFloat (nearest negative n 1) = value := by
  have hall : (bits + if negative then 2 ^ 63 else 0) < 2 ^ 64 := by
    split <;> omega
  rw [nearest, hbits, Nat.pow_eq, ofFloat_ofBits hall (by rwa [hvalue]), hvalue]

/-- Within the bound the nearest floating-point number stands for what is kept of a natural number. -/
theorem ofFloat_nearest_finite (h : nearestNat n < 2 ^ 1024) (negative : Bool) :
    ∃ m q, Value.ofFloat (nearest negative n 1) = .finite negative m q ∧ (m * 2 ^ q : ℚ) = nearestNat n := by
  obtain ⟨m, q, hmagnitude, hvalue, hbits⟩ : ∃ m q, IsMagnitude m q ∧ (m * 2 ^ q : ℚ) = nearestNat n ∧
      nearestBits n 1 = magnitudeBits m q := by
    rcases Nat.eq_zero_or_pos n with rfl | hn
    · exact ⟨0, minExponent, ⟨by decide, .inr rfl, le_rfl, by decide⟩, by simp [nearestNat_zero], rfl⟩
    · obtain ⟨m, q, hfull, hlt, hlow, hvalue, hbits⟩ := exists_magnitude hn
      have hhigh : q ≤ maxExponent := by
        rw [← lt_two_pow_iff hfull hlt, hvalue]
        exact_mod_cast h
      have hmagnitude : IsMagnitude m q := ⟨hlt, .inl hfull, by show (-1074 : Int) ≤ q; omega, hhigh⟩
      exact ⟨m, q, hmagnitude, hvalue, hbits.trans (min_eq_left (magnitudeBits_le hmagnitude).le)⟩
  have hlt := magnitudeBits_le hmagnitude
  exact ⟨m, q, ofFloat_nearest hbits (by omega) (ofBits_magnitudeBits hmagnitude negative) Value.noConfusion, hvalue⟩

/-- Beyond the bound it is an infinity. -/
theorem ofFloat_nearest_infinite (h : 2 ^ 1024 ≤ nearestNat n) (negative : Bool) :
    Value.ofFloat (nearest negative n 1) = .infinite negative := by
  have hbits : nearestBits n 1 = 2047 * 2 ^ 52 := by
    rcases Nat.eq_zero_or_pos n with rfl | hn
    · rw [nearestNat_zero, Nat.le_zero] at h
      exact absurd h (pow_ne_zero 1024 two_ne_zero)
    · obtain ⟨m, q, hfull, hlt, hlow, hvalue, hbits⟩ := exists_magnitude hn
      have hhigh : ¬ q ≤ 971 := by
        intro hq
        have hless := (lt_two_pow_iff hfull hlt).2 hq
        rw [hvalue] at hless
        exact absurd (by exact_mod_cast hless) (Nat.not_lt.2 h)
      clear h
      rw [hbits, magnitudeBits, if_neg (Nat.not_lt.2 hfull)]
      exact min_eq_right (by omega)
  have hvalue := ofBits_parts (by decide : 2047 < 2 ^ 11) (by decide : 0 < 2 ^ 52) negative
  rw [if_pos rfl, if_pos rfl, Nat.add_zero] at hvalue
  exact ofFloat_nearest hbits (by decide) hvalue Value.noConfusion

theorem isFinite_nearest (n : Nat) (negative : Bool) :
    (nearest negative n 1).isFinite = decide (nearestNat n < 2 ^ 1024) := by
  rw [Bool.eq_iff_iff, isFinite_eq_true, decide_eq_true_iff]
  constructor
  · rintro ⟨negative', m, q, hvalue⟩
    by_contra hlarge
    rw [ofFloat_nearest_infinite (Nat.le_of_not_lt hlarge)] at hvalue
    cases hvalue
  · intro h
    obtain ⟨m, q, hvalue, -⟩ := ofFloat_nearest_finite h negative
    exact ⟨negative, m, q, hvalue⟩

/-- What the nearest floating-point number keeps of an integer. -/
def nearestInt (a : Int) : Int :=
  if a < 0 then -nearestNat a.natAbs else nearestNat a.natAbs

variable {a b : Int}

theorem signed_nearestInt {m : Nat} {q : Int} (h : (m * 2 ^ q : ℚ) = nearestNat a.natAbs) :
    signed (decide (a < 0)) m q = nearestInt a := by
  rw [signed, h, nearestInt]
  by_cases ha : a < 0 <;> simp [ha]

theorem natAbs_nearestInt (a : Int) : (nearestInt a).natAbs = nearestNat a.natAbs := by
  rw [nearestInt]
  split <;> simp

theorem nearestInt_of_natAbs_le (h : a.natAbs ≤ 2 ^ 53) : nearestInt a = a := by
  rw [nearestInt, nearestNat_of_le h]
  split <;> omega

theorem nearestInt_nearestInt (a : Int) : nearestInt (nearestInt a) = nearestInt a := by
  have hkept : nearestNat (nearestInt a).natAbs = (nearestInt a).natAbs := by
    rw [natAbs_nearestInt, nearestNat_nearestNat]
  rw [nearestInt, hkept]
  split <;> omega

/-- Rounding keeps the order of integers. -/
theorem nearestInt_mono (h : a ≤ b) : nearestInt a ≤ nearestInt b := by
  rw [nearestInt, nearestInt]
  by_cases ha : a < 0
  · by_cases hb : b < 0
    · have hle := nearestNat_mono (show b.natAbs ≤ a.natAbs by omega)
      rw [if_pos ha, if_pos hb]
      omega
    · rw [if_pos ha, if_neg hb]
      omega
  · have hle := nearestNat_mono (show a.natAbs ≤ b.natAbs by omega)
    rw [if_neg ha, if_neg (by omega)]
    omega

/-- The floating-point number of an integer is read as what is kept of it. -/
theorem toInt?_nearest (h : nearestNat a.natAbs < 2 ^ 1024) :
    toInt? (nearest (decide (a < 0)) a.natAbs 1) = some (nearestInt a) := by
  obtain ⟨m, q, hvalue, hkept⟩ := ofFloat_nearest_finite h (decide (a < 0))
  have hden : 0 < 2 ^ (-q).toNat := by positivity
  have hnum : m * 2 ^ q.toNat = nearestNat a.natAbs * 2 ^ (-q).toNat := by
    have hmoved := mul_pow_div_mul_pow (by decide : 0 < 2) m 1 (-q)
    rw [neg_neg, one_mul, Nat.cast_one, div_one, zpow_neg, div_inv_eq_mul, Nat.cast_ofNat, hkept,
      div_eq_iff (by positivity)] at hmoved
    exact_mod_cast hmoved
  rw [toInt?, hvalue]
  simp only [Nat.pow_eq, hnum, Nat.mul_mod_left, beq_self_eq_true, if_true, Nat.mul_div_left _ hden, nearestInt,
    decide_eq_true_eq]

/-- The integer that a floating-point number is lies within the floating-point numbers. -/
theorem nearestNat_of_toInt? {x : Float} (h : toInt? x = some a) : nearestNat a.natAbs < 2 ^ 1024 := by
  unfold toInt? at h
  split at h
  · rename_i negative m q hvalue
    have hmagnitude := (toNat_toBits hvalue).1
    have hlt := hmagnitude.lt
    have hhigh : q ≤ 971 := hmagnitude.high
    simp only [Nat.pow_eq] at h
    split at h
    · have habs : a.natAbs = m * 2 ^ q.toNat / 2 ^ (-q).toNat := by
        rw [← Option.some.inj h]
        split
        · rw [Int.natAbs_neg, Int.natAbs_natCast]
        · rw [Int.natAbs_natCast]
      rw [habs]
      by_cases hq : 0 ≤ q
      · have hexponent : q.toNat ≤ 971 := by omega
        have hscale : 2 ^ q.toNat ≤ 2 ^ 971 := Nat.pow_le_pow_right two_pos hexponent
        rw [show (-q).toNat = 0 by omega, pow_zero, Nat.div_one, nearestNat_mul_pow hlt.le]
        calc m * 2 ^ q.toNat < 2 ^ 53 * 2 ^ q.toNat := Nat.mul_lt_mul_of_pos_right hlt (by positivity)
          _ ≤ 2 ^ 53 * 2 ^ 971 := Nat.mul_le_mul_left _ hscale
          _ = 2 ^ 1024 := by rw [← pow_add]
      · have hle : m * 2 ^ q.toNat / 2 ^ (-q).toNat ≤ m := by
          rw [show q.toNat = 0 by omega, pow_zero, Nat.mul_one]
          exact Nat.div_le_self _ _
        rw [nearestNat_of_le (hle.trans hlt.le)]
        exact (hle.trans_lt hlt).trans (Nat.pow_lt_pow_right one_lt_two (by decide))
    · cases h
  · cases h

/-- Integers are compared as what is kept of them. -/
theorem nearest_lt_nearest (ha : nearestNat a.natAbs < 2 ^ 1024) (hb : nearestNat b.natAbs < 2 ^ 1024) :
    nearest (decide (a < 0)) a.natAbs 1 < nearest (decide (b < 0)) b.natAbs 1 ↔ nearestInt a < nearestInt b := by
  obtain ⟨m, q, hvalue, hkept⟩ := ofFloat_nearest_finite ha (decide (a < 0))
  obtain ⟨m', q', hvalue', hkept'⟩ := ofFloat_nearest_finite hb (decide (b < 0))
  rw [lt_iff_signed_lt hvalue hvalue', signed_nearestInt hkept, signed_nearestInt hkept']
  exact_mod_cast Iff.rfl

/-! ## Reading the digits of an integer -/

theorem isDigit_iff {c : Char} : isDigit c = true ↔ '0' ≤ c ∧ c ≤ '9' := by
  rw [isDigit, digit?]
  split <;> simp_all

theorem toLower_of_isDigit {c : Char} (h : isDigit c = true) : c.toLower = c := by
  have hle : c.val ≤ '9'.val := (isDigit_iff.1 h).2
  rw [Char.toLower, dif_neg]
  rintro ⟨hupper, -⟩
  exact absurd (UInt32.le_trans hupper hle) (by decide)

/-- The digits of a number, with a minus or none, are read as the nearest floating-point number. -/
theorem float?_digitText (n : Nat) (negative : Bool) :
    float? ((if negative then ['-'] else []) ++ digitText n) = some (ofScientific negative n 0) := by
  have hdigits : ∀ c ∈ digitText n, isDigit c = true := fun c => isDigit_of_mem_digitText
  obtain ⟨c, cs, hcs⟩ := List.exists_cons_of_ne_nil (digitText_ne_nil n)
  have hfirst : isDigit c = true := hdigits c (by rw [hcs]; exact List.mem_cons_self)
  have hne {d : Char} (hd : isDigit d = false) : c ≠ d := by
    rintro rfl
    rw [hfirst] at hd
    cases hd
  have hsign : splitSign ((if negative then ['-'] else []) ++ digitText n) = (negative, digitText n) := by
    cases negative
    · rw [if_neg Bool.false_ne_true, List.nil_append, hcs]
      have hminus : c ≠ '-' := hne rfl
      have hplus : c ≠ '+' := hne rfl
      unfold splitSign
      split <;> simp_all
    · rfl
  have hword (word : String) {d : Char} {ds : List Char} (hw : word.toList = d :: ds) (hd : isDigit d = false) :
      (String.ofList ((digitText n).map Char.toLower) == word) = false := by
    rw [beq_eq_false_iff_ne, ne_eq, ← String.toList_inj, String.toList_ofList, hcs, hw, List.map_cons, List.cons.injEq,
      toLower_of_isDigit hfirst]
    exact fun h => hne hd h.1
  have hall : (digitText n).takeWhile isDigit = digitText n ∧ (digitText n).dropWhile isDigit = [] := by
    simpa using Json.digits_append hdigits (by simp : ∀ c ∈ ([] : List Char).head?, isDigit c = false)
  simp only [float?, hsign, hword "inf" rfl rfl, hword "infinity" rfl rfl, hword "nan" rfl rfl,
    Bool.or_self, Bool.false_eq_true, if_false, unsigned?, hall.1, hall.2]
  simp [exponent?, digitText_ne_nil, ofDigits_digitText]

/-- A number of more than 400 digits is beyond the bound. -/
theorem le_nearestNat_of_digits (h : 400 < digitCount n) : 2 ^ 1024 ≤ nearestNat n := by
  have hpos : 0 < n := by
    rw [Nat.pos_iff_ne_zero]
    rintro rfl
    exact absurd h (by decide)
  have hten (k : Nat) : 2 ^ (3 * k) ≤ 10 ^ k := by
    rw [Nat.pow_mul]
    exact Nat.pow_le_pow_left (by decide) k
  have hle : 2 ^ 1024 ≤ n := by
    have hplaces : 1024 ≤ 3 * (digitCount n - 1) := by omega
    calc 2 ^ 1024 ≤ 2 ^ (3 * (digitCount n - 1)) := pow_le_pow_right₀ one_le_two hplaces
      _ ≤ 10 ^ (digitCount n - 1) := hten _
      _ ≤ n := pow_digitCount_le hpos
  rw [← nearestNat_two_pow 1024]
  exact nearestNat_mono hle

/-- The number of some digits is the nearest to what they write, and not finite beyond the bound. -/
theorem ofScientific_zero (n : Nat) (negative : Bool) :
    (nearestNat n < 2 ^ 1024 → ofScientific negative n 0 = nearest negative n 1) ∧
      (ofScientific negative n 0).isFinite = decide (nearestNat n < 2 ^ 1024) := by
  have hcount : (Nat.toDigits 10 n).length = digitCount n := rfl
  by_cases hmany : 400 < digitCount n
  · have hlarge := le_nearestNat_of_digits hmany
    have hn : (n == 0) = false := by
      rw [beq_eq_false_iff_ne]
      rintro rfl
      exact absurd hmany (by decide)
    have hinfinite : ofScientific negative n 0 = nearest negative (Nat.pow 2 1024) 1 := by
      simp only [ofScientific, hn, hcount, Bool.false_eq_true, if_false]
      rw [if_neg (by omega), if_pos (by omega)]
    have hnot : ¬ nearestNat n < 2 ^ 1024 := Nat.not_lt.2 hlarge
    have hbeyond (j : Nat) : (nearest negative (Nat.pow 2 j) 1).isFinite = decide (2 ^ j < 2 ^ 1024) := by
      rw [Nat.pow_eq, isFinite_nearest, nearestNat_two_pow]
    refine ⟨fun h => absurd h hnot, (congrArg Float.isFinite hinfinite).trans ((hbeyond 1024).trans ?_)⟩
    rw [decide_eq_decide]
    exact ⟨fun h => h.false.elim, fun h => absurd h hnot⟩
  · have hnearest : ofScientific negative n 0 = nearest negative n 1 := by
      simp only [ofScientific, hcount, Nat.pow_eq]
      rcases Nat.eq_zero_or_pos n with rfl | hn
      · rfl
      · rw [if_neg (by simpa using hn.ne'), if_neg (by omega), if_neg (by omega)]
        simp
    rw [hnearest]
    exact ⟨fun _ => rfl, isFinite_nearest n negative⟩

end Runbook.Decimal
