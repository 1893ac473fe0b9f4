import Runbook.Decimal.Binary

/-!
# The fewest digits that read back

Every finite floating-point number is written with as few decimal digits as still read back as that
number, and of those numerals with the nearest one. The numbers that read back as `m * 2 ^ q` fill the
interval halfway to its two neighbours, ends included exactly when `m` is even.

For one digit, two, and so on, the search looks at the two points of that decimal grid next to the
number. The first grid with a point in the interval gives the digits; of two such points the nearer is
taken, and of two equally near ones the even.
-/

namespace Runbook.Decimal

/-- The decimal number `digits * 10 ^ exponent`. -/
structure Scientific where
  digits : Nat
  exponent : Int
  deriving DecidableEq, Repr

/-- How many decimal digits `n` has; zero has one. -/
def digitCount (n : Nat) : Nat :=
  (Nat.toDigits 10 n).length

/-- Takes the zeros off the end of the digits. -/
def Scientific.normalize (fuel : Nat) (s : Scientific) : Scientific :=
  match fuel with
  | 0 => s
  | fuel + 1 =>
    if s.digits != 0 && s.digits % 10 == 0 then
      normalize fuel ⟨s.digits / 10, s.exponent + 1⟩
    else s

/-- The decimal place just above the leading digit of `num / den`: the least `k` with
`num / den < 10 ^ k`, for positive `num` and `den`. -/
def leadingPlace (num den : Nat) : Int :=
  let below (k : Int) : Bool := num * Nat.pow 10 (-k).toNat < den * Nat.pow 10 k.toNat
  let guess := (digitCount num : Int) - digitCount den
  if below guess then guess else guess + 1

/-- The real numbers that read back as one floating-point number, all above the denominator `den`. -/
structure Interval where
  low : Nat
  value : Nat
  high : Nat
  den : Nat
  closed : Bool

/-- The interval around `mantissa * 2 ^ exponent`. Below a power of two the neighbour is nearer. -/
def Interval.around (mantissa : Nat) (exponent : Int) : Interval :=
  let unit := Nat.pow 2 (exponent - 2).toNat
  let below := if mantissa == Nat.pow 2 52 && minExponent < exponent then 1 else 2
  { low := (4 * mantissa - below) * unit
    value := 4 * mantissa * unit
    high := (4 * mantissa + 2) * unit
    den := Nat.pow 2 (2 - exponent).toNat
    closed := mantissa % 2 == 0 }

/-- Does `digits * 10 ^ exponent` lie in the interval? -/
def Interval.contains (i : Interval) (s : Scientific) : Bool :=
  let point := s.digits * Nat.pow 10 s.exponent.toNat * i.den
  let scale := Nat.pow 10 (-s.exponent).toNat
  if i.closed then i.low * scale ≤ point && point ≤ i.high * scale
  else i.low * scale < point && point < i.high * scale

/-- The point of the grid of multiples of `10 ^ exponent` that lies in the interval, the nearer one
if there are two. -/
def Interval.gridPoint? (i : Interval) (exponent : Int) : Option Scientific :=
  let num := i.value * Nat.pow 10 (-exponent).toNat
  let den := i.den * Nat.pow 10 exponent.toNat
  let below : Scientific := ⟨num / den, exponent⟩
  let above : Scientific := ⟨num / den + 1, exponent⟩
  let nearer : Scientific := ⟨roundHalfEven num den, exponent⟩
  match i.contains below, i.contains above with
  | true, true => some nearer
  | true, false => some below
  | false, true => some above
  | false, false => none

/-- Tries grids of `count`, `count + 1`, … digits, `fuel` of them. -/
def Interval.search (i : Interval) (place : Int) : (fuel count : Nat) → Scientific
  | 0, count => ⟨roundHalfEven (i.value * Nat.pow 10 (count - place).toNat)
      (i.den * Nat.pow 10 (place - count).toNat), place - count⟩
  | fuel + 1, count => (i.gridPoint? (place - count)).getD (i.search place fuel (count + 1))

/-- The fewest digits that read back as `mantissa * 2 ^ exponent`. -/
def shortest (mantissa : Nat) (exponent : Int) : Scientific :=
  if mantissa == 0 then ⟨0, 0⟩
  else
    let i := Interval.around mantissa exponent
    (i.search (leadingPlace i.value i.den) 16 1).normalize 20

/-- `mantissa * 2 ^ exponent` rounded to `count` decimal digits, a tie going to the even digit. -/
def rounded (count mantissa : Nat) (exponent : Int) : Scientific :=
  if mantissa == 0 then ⟨0, 0⟩
  else
    let i := Interval.around mantissa exponent
    (i.search (leadingPlace i.value i.den) 0 count).normalize (count + 1)

end Runbook.Decimal
