import IndexWatch.Decimal.Binary64

/-! Numbers read from text: double-precision numbers and sixteen-bit whole numbers. -/

namespace IndexWatch.Decimal

def digitValue? (c : Char) : Option Nat :=
  if '0' ≤ c ∧ c ≤ '9' then some (c.toNat - '0'.toNat) else none

def isDigit (c : Char) : Bool := (digitValue? c).isSome

/-- The number that a row of digits stands for. -/
def ofDigits (digits : List Char) : Nat :=
  digits.foldl (fun n c => 10 * n + (digitValue? c).getD 0) 0

/-- A sign, if there is one, and what follows it. -/
def splitSign : List Char → Bool × List Char
  | '-' :: rest => (true, rest)
  | '+' :: rest => (false, rest)
  | rest => (false, rest)

inductive NumberError where
  | empty
  | malformed
deriving DecidableEq

def NumberError.message : NumberError → String
  | .empty => "cannot parse float from empty string"
  | .malformed => "invalid float literal"

/-- The exponent part of a number: nothing, or a mark, a sign and at least one digit. -/
def readExponent? : List Char → Option Int
  | [] => some 0
  | mark :: rest =>
    let (negative, digits) := splitSign rest
    if (mark == 'e' || mark == 'E') && !digits.isEmpty && digits.all isDigit then
      some (if negative then -(ofDigits digits : Int) else ofDigits digits)
    else none

/-- Digits with an optional point, at least one digit, and an optional exponent. -/
def readPlain? (negative : Bool) (cs : List Char) : Option Binary64 :=
  let whole := cs.takeWhile isDigit
  let rest := cs.dropWhile isDigit
  let (fraction, rest) := match rest with
    | '.' :: rest => (rest.takeWhile isDigit, rest.dropWhile isDigit)
    | rest => ([], rest)
  if whole.isEmpty && fraction.isEmpty then none
  else (readExponent? rest).map fun exponent =>
    Binary64.ofDecimal negative (ofDigits (whole ++ fraction)) (exponent - fraction.length)

/-- The names of the numbers that no digits write, in any case. -/
def readNamed? (negative : Bool) (cs : List Char) : Option Binary64 :=
  match String.ofList (cs.map Char.toLower) with
  | "inf" | "infinity" => some (.infinite negative)
  | "nan" => some .nan
  | _ => none

/-- A double-precision number in decimal or by name. -/
def readNumber (s : String) : Except NumberError Binary64 :=
  if s.isEmpty then .error .empty
  else
    let (negative, body) := splitSign s.toList
    match (readPlain? negative body).or (readNamed? negative body) with
    | some x => .ok x
    | none => .error .malformed

inductive WordError where
  | empty
  | invalidDigit
  | tooLarge
deriving DecidableEq

def WordError.message : WordError → String
  | .empty => "cannot parse integer from empty string"
  | .invalidDigit => "invalid digit found in string"
  | .tooLarge => "number too large to fit in target type"

/-- One more digit; the first character that is no digit or makes the number too large decides. -/
def pushDigit (n : UInt16) (c : Char) : Except WordError UInt16 :=
  match digitValue? c with
  | none => .error .invalidDigit
  | some d => if 10 * n.toNat + d < 65536 then .ok (.ofNat (10 * n.toNat + d)) else .error .tooLarge

/-- A whole number below `2 ^ 16` in decimal; a plus sign is allowed, a minus sign is not. -/
def readWord (s : String) : Except WordError UInt16 :=
  match s.toList with
  | [] => .error .empty
  | '+' :: [] => .error .invalidDigit
  | '+' :: digits => digits.foldlM pushDigit 0
  | digits => digits.foldlM pushDigit 0

end IndexWatch.Decimal
