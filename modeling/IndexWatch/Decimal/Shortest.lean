import IndexWatch.Decimal.Binary64
import IndexWatch.Decimal.Places

/-! The shortest decimal text of a double-precision number.

Of the decimals that read back as the number, `shortest` takes one with the fewest digits, and of
those the nearest. `Binary64.text` writes it out in full, never with an exponent. -/

namespace IndexWatch.Decimal

/-- A decimal number: `significand * 10 ^ exponent`. -/
structure Scientific where
  significand : Nat
  exponent : Int
deriving DecidableEq

/-- The least power of ten above a positive quotient. -/
def magnitude (num den : Nat) : Int :=
  let guess : Int := (Nat.toDigits 10 num).length - (Nat.toDigits 10 den).length
  if den * Nat.pow 10 guess.toNat ≤ num * Nat.pow 10 (-guess).toNat then guess + 1 else guess

/-- The nearer of the two decimals around `units` on the grid of `10 ^ exponent` that read back. -/
def readsBackAt? (units : Nat) (exponent : Int) : Option Scientific :=
  let num := units * Nat.pow 10 (-exponent).toNat
  let den := Binary64.scale * Nat.pow 10 exponent.toNat
  let below := num / den
  let readsBack (significand : Nat) : Bool :=
    Binary64.ofDecimal false significand exponent == .finite false units
  let upperFirst := den < 2 * (num % den)
  let order := if upperFirst then [below + 1, below] else [below, below + 1]
  (order.find? readsBack).map (⟨·, exponent⟩)

/-- The decimal with the fewest digits that reads back as `units`. Seventeen are enough. -/
def shortest (units : Nat) : Scientific :=
  let top := magnitude units Binary64.scale
  ((List.range 17).findSome? fun (n : Nat) => readsBackAt? units (top - 1 - n)).getD
    ⟨units * Nat.pow 10 (17 - top).toNat / (Binary64.scale * Nat.pow 10 (top - 17).toNat), top - 17⟩

/-- A decimal written out, with neither an exponent nor a fraction of zeros. -/
def Scientific.text (x : Scientific) : String :=
  if 0 ≤ x.exponent then toString (x.significand * Nat.pow 10 x.exponent.toNat)
  else withPlaces (-x.exponent).toNat x.significand

/-- A double-precision number as text. -/
def Binary64.text : Binary64 → String
  | .nan => "NaN"
  | .infinite negative => if negative then "-inf" else "inf"
  | .finite negative units =>
    (if negative then "-" else "") ++ (if units = 0 then "0" else (shortest units).text)

end IndexWatch.Decimal
