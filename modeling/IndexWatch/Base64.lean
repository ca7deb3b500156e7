/-! Base64 with its padding and nothing besides.

`Base64.decode` reads one canonical form: groups of four characters, the last one filled up with
padding, unused bits zero. -/

namespace IndexWatch.Base64

/-- The six bits that a character stands for. -/
def value? (b : UInt8) : Option Nat :=
  if 0x41 ≤ b ∧ b ≤ 0x5A then some (b.toNat - 0x41)
  else if 0x61 ≤ b ∧ b ≤ 0x7A then some (b.toNat - 0x61 + 26)
  else if 0x30 ≤ b ∧ b ≤ 0x39 then some (b.toNat - 0x30 + 52)
  else if b = 0x2B then some 62
  else if b = 0x2F then some 63
  else none

def padding : UInt8 := 0x3D

/-- Three bytes from four groups of six bits. -/
def threeBytes (a b c d : Nat) : List UInt8 :=
  [.ofNat (a * 4 + b / 16), .ofNat (b % 16 * 16 + c / 4), .ofNat (c % 4 * 64 + d)]

inductive Fault where
  | invalidSymbol (offset : Nat) (symbol : UInt8)
  | invalidLength (length : Nat)
  | invalidLastSymbol (offset : Nat) (symbol : UInt8)
  | invalidPadding
deriving DecidableEq

def Fault.message : Fault → String
  | invalidSymbol offset symbol => s!"Invalid symbol {symbol}, offset {offset}."
  | invalidLength length => s!"Invalid input length: {length}"
  | invalidLastSymbol offset symbol => s!"Invalid last symbol {symbol}, offset {offset}."
  | invalidPadding => "Invalid padding"

/-- The last group: at most four characters, some of them padding. -/
def decodeLast (offset : Nat) (group : List UInt8) : Except Fault (List UInt8) :=
  let symbols := group.takeWhile (· != padding)
  let pad := group.dropWhile (· != padding)
  match symbols.findIdx? (fun b => (value? b).isNone) with
  | some i => .error (.invalidSymbol (offset + i) (symbols.getD i 0))
  | none =>
    let values := symbols.filterMap value?
    match pad.findIdx? (· != padding) with
    | some _ => .error (.invalidSymbol (offset + symbols.length) padding)
    | none =>
      if group.isEmpty then .ok []
      else if symbols.length < 2 && !pad.isEmpty then
        .error (.invalidSymbol (offset + symbols.length) padding)
      else match values with
        | [a, b] =>
          if pad.length ≠ 2 then .error .invalidPadding
          else if b % 16 ≠ 0 then .error (.invalidLastSymbol (offset + 1) (symbols.getD 1 0))
          else .ok ((threeBytes a b 0 0).take 1)
        | [a, b, c] =>
          if pad.length ≠ 1 then .error .invalidPadding
          else if c % 4 ≠ 0 then .error (.invalidLastSymbol (offset + 2) (symbols.getD 2 0))
          else .ok ((threeBytes a b c 0).take 2)
        | [a, b, c, d] => .ok (threeBytes a b c d)
        | _ => .error (.invalidLength (offset + symbols.length))

/-- The bytes of a text from its position `offset` on; `done` are the bytes so far, the last one
first. -/
def decodeFrom (offset : Nat) (done : List UInt8) : List UInt8 → Except Fault (List UInt8)
  | w :: x :: y :: z :: next :: rest =>
    match value? w, value? x, value? y, value? z with
    | some a, some b, some c, some d =>
      decodeFrom (offset + 4) ((threeBytes a b c d).reverse ++ done) (next :: rest)
    | a, b, c, _ =>
      let (i, symbol) :=
        if a.isNone then (0, w) else if b.isNone then (1, x) else if c.isNone then (2, y) else (3, z)
      .error (.invalidSymbol (offset + i) symbol)
  | group => (decodeLast offset group).map (done.reverse ++ ·)

/-- The bytes that a padded text stands for. -/
def decode (text : List UInt8) : Except Fault (List UInt8) := decodeFrom 0 [] text

end IndexWatch.Base64
