import IndexWatch.Decimal.Binary64
import IndexWatch.Duration

/-! Spans of time from a number of seconds. -/

namespace IndexWatch.Decimal

inductive SecondsError where
  | negative
  | tooLargeOrNan
deriving DecidableEq

def SecondsError.message : SecondsError → String
  | .negative => "cannot convert float seconds to Duration: value is negative"
  | .tooLargeOrNan => "cannot convert float seconds to Duration: value is either too big or NaN"

/-- The seconds that a span cannot have, in units. -/
def secondsLimit : Nat := Nat.pow 2 64 * Binary64.scale

/-- The span of `x` seconds to the nearest nanosecond, a half to the even one. Negative zero is
zero. -/
def Binary64.seconds (x : Binary64) : Except SecondsError Duration :=
  if x.isNegative then .error .negative
  else match x with
    | .nan | .infinite _ => .error .tooLargeOrNan
    | .finite _ units =>
      if units < secondsLimit then
        .ok (.ofNanos (roundHalfEven (units * 1000000000) Binary64.scale))
      else .error .tooLargeOrNan

end IndexWatch.Decimal
