import Runbook.Proofs.Decimal.Float

/-!
# Comparing floating-point numbers

* `unpack_toModel` — what the model of floating-point arithmetic unpacks is what a number stands for.
* `compare_unpack` — finite numbers are compared as what they stand for; so one is less than another
  (`lt_iff_signed_lt`), or at most another (`le_iff_signed_le`), if what it stands for is.
* `toBits_ofBits` — bits that are no numbers apart, every number has the bits that it is made from.
-/

namespace Runbook.Decimal

open Float.Model (UnpackedFloat)
open Float.Model.UnpackedFloat (Sign)

variable {x y : Float} {negative negative' : Bool} {m m' : Nat} {q q' : Int}

/-! ## The model of floating-point numbers -/

/-- The sign in the model. -/
def signOf (negative : Bool) : Sign :=
  if negative then .negative else .positive

/-- What bits stand for, in the model. -/
def Value.unpacked : Value → UnpackedFloat
  | .nan => .notANumber
  | .infinite negative => .infinity (signOf negative)
  | .finite negative m q =>
    if h : m = 0 then .zero (signOf negative) else .finite (signOf negative) m q (Nat.pos_of_ne_zero h)

theorem toNat_unpackExponent (u : UInt64) :
    (@UnpackedFloat.unpackExponent .binary64 u.toBitVec).toNat = u.toNat / 2 ^ 52 % 2 ^ 11 := by
  simp [UnpackedFloat.unpackExponent, Nat.shiftRight_eq_div_pow]

theorem toNat_unpackMantissa (u : UInt64) :
    (@UnpackedFloat.unpackMantissa .binary64 u.toBitVec).toNat = u.toNat % 2 ^ 52 := by
  simp [UnpackedFloat.unpackMantissa]

theorem toNat_unpackSign (u : UInt64) :
    (@UnpackedFloat.unpackSign .binary64 u.toBitVec).toNat = u.toNat / 2 ^ 63 % 2 := by
  simp [UnpackedFloat.unpackSign, Nat.shiftRight_eq_div_pow]

theorem ofBitVec_unpackSign (u : UInt64) :
    Sign.ofBitVec (@UnpackedFloat.unpackSign .binary64 u.toBitVec) = signOf (u.toNat / 2 ^ 63 == 1) := by
  have hlt := u.toNat_lt
  have hsign := toNat_unpackSign u
  have hzero : @UnpackedFloat.unpackSign .binary64 u.toBitVec = 0#1 ↔ u.toNat / 2 ^ 63 = 0 := by
    rw [← BitVec.toNat_inj, hsign, BitVec.toNat_zero]
    omega
  rw [Sign.ofBitVec, signOf]
  by_cases h : u.toNat / 2 ^ 63 = 0
  · rw [if_pos (hzero.2 h), if_neg (by rw [h]; decide)]
  · have hone : u.toNat / 2 ^ 63 = 1 := by omega
    rw [if_neg (mt hzero.1 h), if_pos (by rw [hone]; decide)]

/-- What the model unpacks is what the bits stand for. -/
theorem unpack_toBitVec (u : UInt64) :
    UnpackedFloat.unpack .binary64 u.toBitVec = (Value.ofBits u.toNat).unpacked := by
  have hexponent := toNat_unpackExponent u
  have hmantissa := toNat_unpackMantissa u
  have hfull : @UnpackedFloat.unpackExponent .binary64 u.toBitVec = -1#11 ↔
      u.toNat / 2 ^ 52 % 2 ^ 11 = 2047 := by
    rw [← BitVec.toNat_inj, hexponent]
    rfl
  have hleast : @UnpackedFloat.unpackExponent .binary64 u.toBitVec = 0#11 ↔
      u.toNat / 2 ^ 52 % 2 ^ 11 = 0 := by
    rw [← BitVec.toNat_inj, hexponent]
    rfl
  have hzero : @UnpackedFloat.unpackMantissa .binary64 u.toBitVec = 0#52 ↔ u.toNat % 2 ^ 52 = 0 := by
    rw [← BitVec.toNat_inj, hmantissa]
    rfl
  unfold UnpackedFloat.unpack Value.ofBits
  simp only [Nat.pow_eq, ofBitVec_unpackSign]
  by_cases hinfinite : u.toNat / 2 ^ 52 % 2 ^ 11 = 2047
  · by_cases hfraction : u.toNat % 2 ^ 52 = 0
    · rw [if_pos (hfull.2 hinfinite), if_pos (hzero.2 hfraction), if_pos (by simpa using hinfinite),
        if_pos (by simpa using hfraction), Value.unpacked]
    · rw [if_pos (hfull.2 hinfinite), if_neg (mt hzero.1 hfraction), if_pos (by simpa using hinfinite),
        if_neg (by simpa using hfraction), Value.unpacked]
  · rw [if_neg (mt hfull.1 hinfinite), if_neg (c := (_ == 2047) = true) (by simpa using hinfinite)]
    by_cases hbiased : u.toNat / 2 ^ 52 % 2 ^ 11 = 0
    · rw [if_pos (hleast.2 hbiased), if_pos (by simpa using hbiased), Value.unpacked]
      by_cases hfraction : u.toNat % 2 ^ 52 = 0
      · rw [dif_pos (hzero.2 hfraction), dif_pos hfraction]
      · rw [dif_neg (mt hzero.1 hfraction), dif_neg hfraction, UnpackedFloat.finite.injEq]
        refine ⟨rfl, hmantissa, ?_⟩
        rw [hexponent, hbiased]
        rfl
    · rw [if_neg (mt hleast.1 hbiased), if_neg (by simpa using hbiased), Value.unpacked, dif_neg (by omega),
        UnpackedFloat.finite.injEq]
      refine ⟨rfl, ?_, ?_⟩
      · rw [BitVec.toNat_append, hmantissa, ← Nat.shiftLeft_add_eq_or_of_lt (Nat.mod_lt _ (by decide)),
          Nat.add_comm]
        rfl
      · rw [hexponent]
        rfl

theorem unpack_toModel (x : Float) : x.toModel.unpack = (Value.ofFloat x).unpacked :=
  unpack_toBitVec x.toBits

/-- The finite numbers are those that stand for one. -/
theorem isFinite_eq_true : x.isFinite = true ↔ ∃ negative m q, Value.ofFloat x = .finite negative m q := by
  rw [Float.isFinite, Float.Model.isFinite, unpack_toModel]
  cases hvalue : Value.ofFloat x with
  | nan => simp [Value.unpacked, UnpackedFloat.isFinite]
  | infinite negative => simp [Value.unpacked, UnpackedFloat.isFinite]
  | finite negative m q =>
    by_cases hm : m = 0 <;> simp [Value.unpacked, hm, UnpackedFloat.isFinite]

/-! ## Numbers made of bits -/

/-- A number has the bits that it is made from, unless they stand for no number. -/
theorem toBits_ofBits {u : UInt64} (h : Value.ofBits u.toNat ≠ .nan) : (Float.ofBits u).toBits = u := by
  have hvalid : Float.Model.Format.binary64.Valid u.toBitVec := by
    refine ⟨fun hexponent hmantissa => absurd ?_ h⟩
    have hfull : u.toNat / 2 ^ 52 % 2 ^ 11 = 2047 := by
      rw [← toNat_unpackExponent, hexponent]
      rfl
    have hfraction : u.toNat % 2 ^ 52 ≠ 0 := by
      rw [← toNat_unpackMantissa]
      exact fun hzero => hmantissa (BitVec.eq_of_toNat_eq hzero)
    simp only [Value.ofBits, Nat.pow_eq]
    rw [if_pos (by simpa using hfull), if_neg (by simpa using hfraction)]
  let x : Float := ⟨⟨u, hvalid⟩⟩
  have hx : x.toBits = u := rfl
  rw [← hx, Float.ofBits_toBits]

theorem ofFloat_ofBits {bits : Nat} (hlt : bits < 2 ^ 64) (h : Value.ofBits bits ≠ .nan) :
    Value.ofFloat (Float.ofBits (UInt64.ofNat bits)) = Value.ofBits bits := by
  have hbits : (UInt64.ofNat bits).toNat = bits := UInt64.toNat_ofNat_of_lt' hlt
  rw [Value.ofFloat, toBits_ofBits (by rwa [hbits]), hbits]

/-- What bits stand for, by their parts. -/
theorem ofBits_parts {biased fraction : Nat} (hbiased : biased < 2 ^ 11) (hfraction : fraction < 2 ^ 52)
    (negative : Bool) :
    Value.ofBits (biased * 2 ^ 52 + fraction + if negative then 2 ^ 63 else 0) =
      if biased = 2047 then (if fraction = 0 then .infinite negative else .nan)
      else if biased = 0 then .finite negative fraction minExponent
      else .finite negative (fraction + 2 ^ 52) ((biased : Int) - 1075) := by
  generalize hbits : biased * 2 ^ 52 + fraction + (if negative then 2 ^ 63 else 0) = bits
  have hsign : (bits / 2 ^ 63 == 1) = negative := by
    rw [← hbits]
    cases negative
    · rw [beq_eq_false_iff_ne, if_neg Bool.false_ne_true]
      omega
    · rw [beq_iff_eq, if_pos rfl]
      omega
  have hexponent : bits / 2 ^ 52 % 2 ^ 11 = biased := by
    rw [← hbits]
    split <;> omega
  have hmantissa : bits % 2 ^ 52 = fraction := by
    rw [← hbits]
    split <;> omega
  simp only [Value.ofBits, Nat.pow_eq, hsign, hexponent, hmantissa, beq_iff_eq]

/-- The bits of a magnitude and a sign stand for them. -/
theorem ofBits_magnitudeBits (h : IsMagnitude m q) (negative : Bool) :
    Value.ofBits (magnitudeBits m q + if negative then 2 ^ 63 else 0) = .finite negative m q := by
  have hlt := h.lt
  have hlow : -1074 ≤ q := h.low
  have hhigh : q ≤ 971 := h.high
  rw [magnitudeBits]
  by_cases hsmall : m < 2 ^ 52
  · have hmin : q = minExponent := h.full.resolve_left (by omega)
    have hbits := ofBits_parts (by decide : 0 < 2 ^ 11) hsmall negative
    rw [Nat.zero_mul, Nat.zero_add] at hbits
    rw [if_pos hsmall, hbits, if_neg (by decide), if_pos rfl, hmin]
  · rw [if_neg hsmall, ofBits_parts (by omega) (by omega), if_neg (by omega), if_neg (by omega), Value.finite.injEq]
    exact ⟨rfl, by omega, by omega⟩

/-! ## The order -/

/-- The number that sign, mantissa and exponent stand for. -/
def signed (negative : Bool) (m : Nat) (q : Int) : ℚ :=
  if negative then -(m * 2 ^ q) else m * 2 ^ q

/-- Magnitudes are ordered by their exponents first. -/
theorem IsMagnitude.lt_of_exponent_lt (h : IsMagnitude m q) (h' : IsMagnitude m' q') (hq : q < q') :
    (m * 2 ^ q : ℚ) < m' * 2 ^ q' := by
  have hfull : 2 ^ 52 ≤ m' := h'.full.resolve_right (h.low.trans_lt hq).ne'
  calc (m * 2 ^ q : ℚ) < 2 ^ 53 * 2 ^ q := by
        gcongr
        exact_mod_cast h.lt
    _ = 2 ^ 52 * 2 ^ (q + 1) := by
        rw [zpow_add_one₀ (by norm_num)]
        ring
    _ ≤ m' * 2 ^ q' := by
        gcongr
        · exact_mod_cast hfull
        · norm_num
        · omega

/-- The model compares magnitudes as what they stand for. -/
theorem compare_magnitudes (h : IsMagnitude m q) (h' : IsMagnitude m' q') :
    (compare q q').then (compare m m') = compare (m * 2 ^ q : ℚ) (m' * 2 ^ q') := by
  have hpow : (0 : ℚ) < 2 ^ q := by positivity
  rcases lt_trichotomy q q' with hq | rfl | hq
  · rw [compare_lt_iff_lt.2 hq, compare_lt_iff_lt.2 (h.lt_of_exponent_lt h' hq)]
    rfl
  · rw [compare_eq_iff_eq.2 rfl, Ordering.eq_then]
    rcases lt_trichotomy m m' with hm | rfl | hm
    · rw [compare_lt_iff_lt.2 hm, compare_lt_iff_lt.2]
      gcongr
    · rw [compare_eq_iff_eq.2 rfl, compare_eq_iff_eq.2 rfl]
    · rw [compare_gt_iff_gt.2 hm, compare_gt_iff_gt.2]
      show (m' * 2 ^ q : ℚ) < m * 2 ^ q
      gcongr
  · rw [compare_gt_iff_gt.2 hq, compare_gt_iff_gt.2 (h'.lt_of_exponent_lt h hq)]
    rfl

theorem compare_neg_neg (a b : ℚ) : compare (-a) (-b) = (compare a b).swap := by
  rcases lt_trichotomy a b with h | rfl | h
  · rw [compare_lt_iff_lt.2 h, compare_gt_iff_gt.2 (neg_lt_neg h), Ordering.swap_lt]
  · rw [compare_eq_iff_eq.2 rfl, compare_eq_iff_eq.2 rfl, Ordering.swap_eq]
  · rw [compare_gt_iff_gt.2 h, compare_lt_iff_lt.2 (neg_lt_neg h), Ordering.swap_gt]

/-- **The model compares finite numbers as what they stand for.** -/
theorem compare_unpack (hx : Value.ofFloat x = .finite negative m q)
    (hy : Value.ofFloat y = .finite negative' m' q') :
    UnpackedFloat.compare x.toModel.unpack y.toModel.unpack =
      some (compare (signed negative m q) (signed negative' m' q')) := by
  have hmagnitudes := compare_magnitudes (toNat_toBits hx).1 (toNat_toBits hy).1
  rw [unpack_toModel, unpack_toModel, hx, hy]
  have hpos {m : Nat} (q : Int) (hm : m ≠ 0) : (0 : ℚ) < m * 2 ^ q := by positivity
  -- zeros are equal whatever their signs are, and everything else is ordered by sign, then by magnitude
  by_cases hm : m = 0 <;> by_cases hm' : m' = 0 <;> cases negative <;> cases negative' <;>
    simp [Value.unpacked, hm, hm', UnpackedFloat.compare, signOf, signed, hmagnitudes, compare_neg_neg,
      eq_comm (b := compare _ _), compare_lt_iff_lt, compare_gt_iff_gt]
  all_goals first | positivity | linarith [hpos q hm, hpos q' hm']

/-- Of two finite numbers one is less than the other if what it stands for is less. -/
theorem lt_iff_signed_lt (hx : Value.ofFloat x = .finite negative m q)
    (hy : Value.ofFloat y = .finite negative' m' q') : x < y ↔ signed negative m q < signed negative' m' q' := by
  have hmodel : x < y ↔ UnpackedFloat.compare x.toModel.unpack y.toModel.unpack = some .lt := by
    show decide (x.toModel.unpack.lt y.toModel.unpack = true) = true ↔ _
    rw [decide_eq_true_iff, UnpackedFloat.lt, beq_iff_eq]
  rw [hmodel, compare_unpack hx hy, Option.some.injEq, compare_lt_iff_lt]

theorem le_iff_signed_le (hx : Value.ofFloat x = .finite negative m q)
    (hy : Value.ofFloat y = .finite negative' m' q') : x ≤ y ↔ signed negative m q ≤ signed negative' m' q' := by
  have hmodel : x ≤ y ↔ x.toModel.unpack.le y.toModel.unpack = true := by
    show decide (x.toModel.unpack.le y.toModel.unpack = true) = true ↔ _
    rw [decide_eq_true_iff]
  rw [hmodel, UnpackedFloat.le, compare_unpack hx hy, Option.any_some, ← compare_le_iff_le]
  cases compare (signed negative m q) (signed negative' m' q') <;> decide

end Runbook.Decimal
