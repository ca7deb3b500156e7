/-! Double-precision numbers as exact values.

A finite number is a whole multiple of `2 ^ -1074`, the distance of the numbers next to zero, so
that comparing and rounding stay in `Nat`. `Binary64.ofRatio` rounds a quotient to the nearest
number, a tie to the one with an even significand. -/

namespace IndexWatch.Decimal

/-- The quotient rounded to the nearest whole number, a half to the even one. -/
def roundHalfEven (num den : Nat) : Nat :=
  let quotient := num / den
  let twice := 2 * (num % den)
  if den < twice || (twice == den && quotient % 2 == 1) then quotient + 1 else quotient

/-- A double-precision number; a finite one is `units / 2 ^ 1074`, with its sign. -/
inductive Binary64 where
  | nan
  | infinite (negative : Bool)
  | finite (negative : Bool) (units : Nat)
deriving DecidableEq

namespace Binary64

/-- How many units make one. -/
def scale : Nat := Nat.pow 2 1074

/-- The first multiple of the unit that is too large for a finite number. -/
def overflow : Nat := Nat.pow 2 2098

/-- The number next to `num / den`, of two equally near ones the one with an even significand. -/
def ofRatio (negative : Bool) (num den : Nat) : Binary64 :=
  let excess := (num * scale / den).log2 + 1 - 53
  let units := roundHalfEven (num * scale) (den * Nat.pow 2 excess) * Nat.pow 2 excess
  if units < overflow then finite negative units else infinite negative

/-- The number next to `significand * 10 ^ exponent`. Powers far outside the range are settled
without being computed. -/
def ofDecimal (negative : Bool) (significand : Nat) (exponent : Int) : Binary64 :=
  let magnitude : Int := (Nat.toDigits 10 significand).length + exponent
  if significand = 0 then finite negative 0
  else if magnitude > 400 then infinite negative
  else if magnitude < -400 then finite negative 0
  else ofRatio negative (significand * Nat.pow 10 exponent.toNat) (Nat.pow 10 (-exponent).toNat)

def isNegative : Binary64 → Bool
  | nan => false
  | infinite negative => negative
  | finite negative units => negative && units != 0

end Binary64

end IndexWatch.Decimal
