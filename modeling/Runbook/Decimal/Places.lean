import Runbook.Decimal.Notation

/-!
# Numerals with a chosen number of digits

A floating-point number can be written with so many digits after the point (`fixed`), with one digit
before the point, so many after it and an exponent (`scientific`), or with so many digits in all
(`general`), which takes an exponent only for what is very large or very small and leaves out zeros at the
end. All three round exactly, a tie going to the even digit.
-/

namespace Runbook.Decimal

/-- Where the digits of a numeral are counted. -/
inductive Layout where
  | fixed
  | scientific
  | general
  deriving DecidableEq, Repr

/-- A whole part and a fraction. A point stands between them if there is a fraction, or if it is asked
for. -/
def pointed (keepsPoint : Bool) (whole fraction : List Char) : List Char :=
  if fraction.isEmpty && !keepsPoint then whole else whole ++ '.' :: fraction

/-- `mantissa * 2 ^ exponent` with `places` digits after the point. -/
def fixedText (keepsPoint : Bool) (places mantissa : Nat) (exponent : Int) : List Char :=
  let units := roundHalfEven (mantissa * Nat.pow 2 exponent.toNat * Nat.pow 10 places)
    (Nat.pow 2 (-exponent).toNat)
  let digits := digitText units
  let padded := List.replicate (places + 1 - digits.length) '0' ++ digits
  let (whole, fraction) := padded.splitAt (padded.length - places)
  pointed keepsPoint whole fraction

/-- The first `count` digits of `mantissa * 2 ^ exponent`, rounded, and the decimal place just above the
first of them. -/
def significant (count mantissa : Nat) (exponent : Int) : List Char × Int :=
  let s := rounded count mantissa exponent
  let digits := digitText s.digits
  (digits ++ List.replicate (count - digits.length) '0', digits.length + s.exponent)

/-- `mantissa * 2 ^ exponent` with one digit before the point and `places` after it. -/
def scientificText (keepsPoint : Bool) (places mantissa : Nat) (exponent : Int) : List Char :=
  let (digits, place) := significant (places + 1) mantissa exponent
  pointed keepsPoint (digits.take 1) (digits.drop 1) ++ exponentText (place - 1)

/-- Takes the zeros off the end of a list of digits, all but the first one. -/
def dropEndZeros : List Char → List Char
  | [] => []
  | d :: ds => d :: (ds.reverse.dropWhile (· == '0')).reverse

/-- `mantissa * 2 ^ exponent` with `count` digits, at least one. An exponent is written for what is
`10 ^ count` or more, and for what is less than `10 ^ -4`; zeros at the end stay only with the point. -/
def generalText (keepsPoint : Bool) (count mantissa : Nat) (exponent : Int) : List Char :=
  let count := max count 1
  let (all, place) := significant count mantissa exponent
  let digits := if keepsPoint then all else dropEndZeros all
  if place ≤ -4 || (count : Int) < place then
    pointed keepsPoint (digits.take 1) (digits.drop 1) ++ exponentText (place - 1)
  else if place ≤ 0 then
    pointed keepsPoint ['0'] (List.replicate (-place).toNat '0' ++ digits)
  else pointed keepsPoint (all.take place.toNat) (digits.drop place.toNat)

/-- The numeral of `mantissa * 2 ^ exponent` in a layout. -/
def Layout.write : Layout → (keepsPoint : Bool) → (count mantissa : Nat) → (exponent : Int) → List Char
  | fixed => fixedText
  | scientific => scientificText
  | general => generalText

end Runbook.Decimal
