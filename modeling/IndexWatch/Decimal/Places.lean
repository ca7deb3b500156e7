/-! Decimal numbers with a fixed number of places, written without the zeros that say nothing. -/

namespace IndexWatch.Decimal

/-- The digits of `n`, with zeros in front up to `width`. -/
def paddedDigits (width n : Nat) : List Char :=
  let digits := Nat.toDigits 10 n
  List.replicate (width - digits.length) '0' ++ digits

def dropTrailingZeros (digits : List Char) : List Char :=
  (digits.reverse.dropWhile (· == '0')).reverse

/-- The number `n / 10 ^ places`, with no zeros at the end of its fraction. -/
def withPlaces (places n : Nat) : String :=
  let whole := toString (n / Nat.pow 10 places)
  match dropTrailingZeros (paddedDigits places (n % Nat.pow 10 places)) with
  | [] => whole
  | fraction => whole ++ "." ++ String.ofList fraction

end IndexWatch.Decimal
