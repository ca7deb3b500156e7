import IndexWatch.Decimal.Reader
import IndexWatch.Json.Value

/-! JSON read from text.

`Json.read` accepts one value with white space around it. A fault names what was wrong and where:
the line, and the bytes on it up to the character that was read or looked at last. -/

namespace IndexWatch.Json

open Decimal

inductive Fault.Problem where
  | endInList
  | endInObject
  | endInString
  | endInValue
  | expectedColon
  | expectedListEnd
  | expectedObjectEnd
  | expectedIdent
  | expectedValue
  | invalidEscape
  | invalidNumber
  | numberOutOfRange
  | controlCharacter
  | keyNotString
  | loneSurrogate
  | trailingComma
  | trailingCharacters
  | endOfHexEscape
  | tooDeep
deriving DecidableEq

def Fault.Problem.message : Fault.Problem → String
  | endInList => "EOF while parsing a list"
  | endInObject => "EOF while parsing an object"
  | endInString => "EOF while parsing a string"
  | endInValue => "EOF while parsing a value"
  | expectedColon => "expected \x60:\x60"
  | expectedListEnd => "expected \x60,\x60 or \x60]\x60"
  | expectedObjectEnd => "expected \x60,\x60 or \x60\x7d\x60"
  | expectedIdent => "expected ident"
  | expectedValue => "expected value"
  | invalidEscape => "invalid escape"
  | invalidNumber => "invalid number"
  | numberOutOfRange => "number out of range"
  | controlCharacter => "control character (\\u0000-\\u001F) found while parsing a string"
  | keyNotString => "key must be a string"
  | loneSurrogate => "lone leading surrogate in hex escape"
  | trailingComma => "trailing comma"
  | trailingCharacters => "trailing characters"
  | endOfHexEscape => "unexpected end of hex escape"
  | tooDeep => "recursion limit exceeded"

/-- What was wrong, and the text that followed; `looked` where its first character was looked at. -/
structure Fault where
  problem : Fault.Problem
  rest : List Char
  looked : Bool

/-- A reader's result: what it read and the text that follows. -/
abbrev Read (α : Type) := Except Fault (α × List Char)

/-- The fault is behind the last character read. -/
def failBefore {α : Type} (problem : Fault.Problem) (rest : List Char) : Except Fault α :=
  .error ⟨problem, rest, false⟩

/-- The fault is the next character, or the end. -/
def failNext {α : Type} (problem : Fault.Problem) (rest : List Char) : Except Fault α :=
  .error ⟨problem, rest, true⟩

def isSpace (c : Char) : Bool := c == ' ' || c == '\n' || c == '\t' || c == '\r'

def skipSpace (cs : List Char) : List Char := cs.dropWhile isSpace

/-- The rest of a name whose first letter has been read. -/
def readIdent (value : Json) : List Char → List Char → Read Json
  | [], cs => .ok (value, cs)
  | _ :: _, [] => failBefore .endInValue []
  | e :: expected, c :: cs =>
    if c == e then readIdent value expected cs else failBefore .expectedIdent cs

def hexValue? (c : Char) : Option Nat :=
  if '0' ≤ c ∧ c ≤ '9' then some (c.toNat - '0'.toNat)
  else if 'a' ≤ c ∧ c ≤ 'f' then some (c.toNat - 'a'.toNat + 10)
  else if 'A' ≤ c ∧ c ≤ 'F' then some (c.toNat - 'A'.toNat + 10)
  else none

def readFourHex : List Char → Read Nat
  | a :: b :: c :: d :: rest =>
    match hexValue? a, hexValue? b, hexValue? c, hexValue? d with
    | some a, some b, some c, some d => .ok (((a * 16 + b) * 16 + c) * 16 + d, rest)
    | _, _, _, _ => failBefore .invalidEscape rest
  | _ => failBefore .endInString []

/-- The character of an escape that gives a number; beyond the first plane it takes two. -/
def readNumberedChar (cs : List Char) : Except Fault (Char × List Char) := do
  let (first, rest) ← readFourHex cs
  if 0xDC00 ≤ first ∧ first < 0xE000 then failBefore .loneSurrogate rest
  else if 0xD800 ≤ first ∧ first < 0xDC00 then
    match rest with
    | '\\' :: 'u' :: rest =>
      let (second, rest) ← readFourHex rest
      if 0xDC00 ≤ second ∧ second < 0xE000 then
        .ok (Char.ofNat (0x10000 + (first - 0xD800) * 0x400 + (second - 0xDC00)), rest)
      else failBefore .loneSurrogate rest
    | [] | ['\\'] => failBefore .endInString []
    | '\\' :: _ :: rest | _ :: rest => failBefore .endOfHexEscape rest
  else .ok (Char.ofNat first, rest)

/-- The character that follows a backslash stands for. -/
def readEscape : List Char → Read Char
  | [] => failBefore .endInString []
  | 'u' :: rest => readNumberedChar rest
  | c :: rest =>
    match c with
    | '"' | '\\' | '/' => .ok (c, rest)
    | 'b' => .ok ('\x08', rest)
    | 'f' => .ok ('\x0c', rest)
    | 'n' => .ok ('\n', rest)
    | 'r' => .ok ('\r', rest)
    | 't' => .ok ('\t', rest)
    | _ => failBefore .invalidEscape rest

/-- The rest of a string; `done` holds its characters so far, the last one first. The number bounds
the characters still to be read. -/
def readStringFrom : Nat → List Char → List Char → Read String
  | 0, _, cs => failBefore .endInString cs
  | _ + 1, _, [] => failBefore .endInString []
  | _ + 1, done, '"' :: cs => .ok (String.ofList done.reverse, cs)
  | fuel + 1, done, '\\' :: cs =>
    match readEscape cs with
    | .error fault => .error fault
    | .ok (c, rest) => readStringFrom fuel (c :: done) rest
  | fuel + 1, done, c :: cs =>
    if c.toNat < 0x20 then failBefore .controlCharacter cs else readStringFrom fuel (c :: done) cs

/-- A string whose opening quote has been read. -/
def readString (cs : List Char) : Read String := readStringFrom (cs.length + 1) [] cs

/-- At least one digit. -/
def readFraction (cs : List Char) : Read (List Char) :=
  match cs.takeWhile isDigit, cs.dropWhile isDigit with
  | [], [] => failNext .endInValue []
  | [], rest => failNext .invalidNumber rest
  | digits, rest => .ok (digits, rest)

/-- A sign and at least one digit, behind the exponent mark. -/
def readExponent (cs : List Char) : Read Int :=
  let (negative, cs) := splitSign cs
  match cs.takeWhile isDigit, cs.dropWhile isDigit with
  | [], [] => failBefore .endInValue []
  | [], _ :: rest => failBefore .invalidNumber rest
  | digits, rest => .ok (if negative then -(ofDigits digits : Int) else ofDigits digits, rest)

def wholeNumber (negative : Bool) (n : Nat) : Json :=
  if negative then
    if n = 0 ∨ 9223372036854775808 < n then real (Binary64.ofDecimal true n 0) else integer (-(n : Int))
  else if n < 18446744073709551616 then integer n else real (Binary64.ofDecimal false n 0)

def fractionalNumber (negative : Bool) (significand : Nat) (exponent : Int) (rest : List Char) :
    Read Json :=
  match Binary64.ofDecimal negative significand exponent with
  | .finite negative units => .ok (real (.finite negative units), rest)
  | _ => failBefore .numberOutOfRange rest

/-- A number whose sign has been read. -/
def readNumber (negative : Bool) (cs : List Char) : Except Fault (Json × List Char) := do
  let (whole, rest) ← match cs.takeWhile isDigit, cs.dropWhile isDigit with
    | '0' :: next :: more, rest => failNext .invalidNumber (next :: more ++ rest)
    | [], [] => failBefore .endInValue []
    | [], _ :: rest => failBefore .invalidNumber rest
    | whole, rest => .ok (whole, rest)
  match rest with
  | '.' :: rest =>
    let (fraction, rest) ← readFraction rest
    let significand := ofDigits (whole ++ fraction)
    match rest with
    | 'e' :: rest | 'E' :: rest =>
      let (exponent, rest) ← readExponent rest
      fractionalNumber negative significand (exponent - fraction.length) rest
    | rest => fractionalNumber negative significand (-(fraction.length : Int)) rest
  | 'e' :: rest | 'E' :: rest =>
    let (exponent, rest) ← readExponent rest
    fractionalNumber negative (ofDigits whole) exponent rest
  | rest => .ok (wholeNumber negative (ofDigits whole), rest)

mutual

/-- One value, nested at most `depth` deep. The first number bounds the steps. -/
def readValue : Nat → Nat → List Char → Read Json
  | 0, _, cs => failNext .endInValue cs
  | fuel + 1, depth, cs =>
    match skipSpace cs with
    | [] => failNext .endInValue []
    | '[' :: rest => if depth ≤ 1 then failNext .tooDeep ('[' :: rest) else
      readItems fuel (depth - 1) true [] rest
    | '\x7b' :: rest => if depth ≤ 1 then failNext .tooDeep ('\x7b' :: rest) else
      readMembers fuel (depth - 1) true [] rest
    | '"' :: rest => (readString rest).map fun (s, rest) => (string s, rest)
    | 'n' :: rest => readIdent null ['u', 'l', 'l'] rest
    | 't' :: rest => readIdent (bool true) ['r', 'u', 'e'] rest
    | 'f' :: rest => readIdent (bool false) ['a', 'l', 's', 'e'] rest
    | '-' :: rest => readNumber true rest
    | c :: rest => if isDigit c then readNumber false (c :: rest) else failNext .expectedValue (c :: rest)

/-- The rest of an array, `first` before its first item; the items so far, the last one first. -/
def readItems : Nat → Nat → Bool → List Json → List Char → Read Json
  | 0, _, _, _, cs => failNext .endInList cs
  | fuel + 1, depth, first, done, cs =>
    match skipSpace cs with
    | [] => failNext .endInList []
    | ']' :: rest => .ok (array done.reverse, rest)
    | c :: rest =>
      if first then
        match readValue fuel depth (c :: rest) with
        | .error fault => .error fault
        | .ok (item, rest) => readItems fuel depth false (item :: done) rest
      else if c == ',' then
        match skipSpace rest with
        | [] => failNext .endInValue []
        | ']' :: rest => failNext .trailingComma (']' :: rest)
        | rest =>
          match readValue fuel depth rest with
          | .error fault => .error fault
          | .ok (item, rest) => readItems fuel depth false (item :: done) rest
      else failNext .expectedListEnd (c :: rest)

/-- The rest of an object, as `readItems` does. -/
def readMembers : Nat → Nat → Bool → List (String × Json) → List Char → Read Json
  | 0, _, _, _, cs => failNext .endInObject cs
  | fuel + 1, depth, first, done, cs =>
    match skipSpace cs with
    | [] => failNext .endInObject []
    | '\x7d' :: rest => .ok (object done.reverse, rest)
    | c :: rest =>
      if first then
        if c == '"' then readMember fuel depth done rest else failNext .keyNotString (c :: rest)
      else if c == ',' then
        match skipSpace rest with
        | [] => failNext .endInValue []
        | '"' :: rest => readMember fuel depth done rest
        | '\x7d' :: rest => failNext .trailingComma ('\x7d' :: rest)
        | rest => failNext .keyNotString rest
      else failNext .expectedObjectEnd (c :: rest)

/-- A member whose opening quote has been read, and the rest of its object. -/
def readMember : Nat → Nat → List (String × Json) → List Char → Read Json
  | 0, _, _, cs => failNext .endInObject cs
  | fuel + 1, depth, done, cs =>
    match readString cs with
    | .error fault => .error fault
    | .ok (name, rest) =>
      match skipSpace rest with
      | [] => failNext .endInObject []
      | ':' :: rest =>
        match readValue fuel depth rest with
        | .error fault => .error fault
        | .ok (value, rest) => readMembers fuel depth false ((name, value) :: done) rest
      | rest => failNext .expectedColon rest

end

/-- Line, from one, and byte on it, from zero, behind some text. -/
def position (text : List Char) : Nat × Nat :=
  text.foldl (fun (line, column) c => if c == '\n' then (line + 1, 0) else (line, column + c.utf8Size))
    (1, 0)

/-- The position of a fault in the text that was read: a character that was looked at counts as one
byte. -/
def Fault.position (fault : Fault) (text : List Char) : Nat × Nat :=
  let consumed := text.take (text.length - fault.rest.length)
  match fault.looked, fault.rest with
  | true, '\n' :: _ => Json.position (consumed ++ ['\n'])
  | true, _ :: _ => let (line, column) := Json.position consumed; (line, column + 1)
  | _, _ => Json.position consumed

/-- A message with the place it is about. -/
def located (message : String) (place : Nat × Nat) : String :=
  let (line, column) := place
  s!"{message} at line {line} column {column}"

/-- The next value, nested less than 128 deep. -/
def readNext (cs : List Char) : Read Json := readValue (4 * cs.length + 4) 128 cs

/-- One value with white space around it. -/
def readAll (cs : List Char) : Except Fault Json :=
  match readNext cs with
  | .error fault => .error fault
  | .ok (value, rest) =>
    match skipSpace rest with
    | [] => .ok value
    | rest => failNext .trailingCharacters rest

/-- The value that a text writes, or what is wrong with it and where. -/
def read (text : String) : Except String Json :=
  match readAll text.toList with
  | .ok value => .ok value
  | .error fault => .error (located fault.problem.message (fault.position text.toList))

end IndexWatch.Json
