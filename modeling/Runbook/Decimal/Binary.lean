/-!
# Binary floating point, exactly

A finite floating-point number is a sign and a magnitude `mantissa * 2 ^ exponent`. `Value.ofFloat` reads
these off the bits of a number, and `nearest` goes back: it finds the number nearest to a quotient of
natural numbers, a tie going to the even mantissa. Everything between the two is arithmetic on natural
numbers, so no digit is lost on the way to or from decimal text.
-/

namespace Runbook.Decimal

/-- What the bits of a floating-point number stand for. -/
inductive Value where
  /-- Not a number. -/
  | nan
  /-- An infinity; `negative` is its sign. -/
  | infinite (negative : Bool)
  /-- The number `± mantissa * 2 ^ exponent`. -/
  | finite (negative : Bool) (mantissa : Nat) (exponent : Int)
  deriving DecidableEq, Repr

/-- The number of bits of a mantissa, its leading one included. -/
def precision : Nat := 53

/-- The exponent of the smallest magnitudes. -/
def minExponent : Int := -1074

/-- The exponent of the largest magnitudes. -/
def maxExponent : Int := 971

/-- Reads sign, mantissa and exponent off the bits. -/
def Value.ofBits (bits : Nat) : Value :=
  let negative := bits / Nat.pow 2 63 == 1
  let biased : Nat := bits / Nat.pow 2 52 % Nat.pow 2 11
  let fraction : Nat := bits % Nat.pow 2 52
  if biased == 2047 then
    if fraction == 0 then .infinite negative else .nan
  else if biased == 0 then .finite negative fraction minExponent
  else .finite negative (fraction + Nat.pow 2 52) ((biased : Int) - 1075)

/-- What `x` stands for. -/
def Value.ofFloat (x : Float) : Value :=
  .ofBits x.toBits.toNat

/-- `num / den` rounded to a natural number, a half going to the even neighbour. -/
def roundHalfEven (num den : Nat) : Nat :=
  let quotient := num / den
  let twice := 2 * (num % den)
  if twice < den || (twice == den && quotient % 2 == 0) then quotient else quotient + 1

/-- `num / den` divided by `2 ^ exponent`, as a pair of a numerator and a denominator. -/
def scaled (num den : Nat) (exponent : Int) : Nat × Nat :=
  (num * Nat.pow 2 (-exponent).toNat, den * Nat.pow 2 exponent.toNat)

/-- The largest `e` with `2 ^ e ≤ num / den`, for positive `num` and `den`. -/
def floorLog2 (num den : Nat) : Int :=
  let guess := (num.log2 : Int) - den.log2
  let (n, d) := scaled num den guess
  if d ≤ n then guess else guess - 1

/-- The bits of the non-negative floating-point number nearest to `num / den`; a tie goes to the even
mantissa, and what lies beyond the largest finite number becomes infinite. -/
def nearestBits (num den : Nat) : Nat :=
  if num == 0 then 0
  else
    let exponent := max (floorLog2 num den - 52) minExponent
    let (n, d) := scaled num den exponent
    let rounded := roundHalfEven n d
    -- Rounding up may fill one bit more; the bits of the next exponent follow on directly.
    let bits :=
      if rounded < Nat.pow 2 52 then rounded
      else (exponent + 1075).toNat * Nat.pow 2 52 + (rounded - Nat.pow 2 52)
    min bits (2047 * Nat.pow 2 52)

/-- The floating-point number nearest to `± num / den`. -/
def nearest (negative : Bool) (num den : Nat) : Float :=
  Float.ofBits (UInt64.ofNat (nearestBits num den + if negative then Nat.pow 2 63 else 0))

/-- The floating-point number nearest to an integer; nothing if that is beyond the finite numbers. -/
def ofInt? (n : Int) : Option Float :=
  let x := nearest (decide (n < 0)) n.natAbs 1
  if x.isFinite then some x else none

/-- The integer that a floating-point number is; nothing if it has a fraction or is not finite. -/
def toInt? (x : Float) : Option Int :=
  match Value.ofFloat x with
  | .finite negative mantissa exponent =>
    let (n, d) := (mantissa * Nat.pow 2 exponent.toNat, Nat.pow 2 (-exponent).toNat)
    if n % d == 0 then
      let magnitude : Int := ((n / d : Nat) : Int)
      some (if negative then -magnitude else magnitude)
    else none
  | _ => none

end Runbook.Decimal
