/-! Text from bytes that may not be well-formed UTF-8.

`decodeLossy` puts one replacement character in the place of each longest part that begins like a
character and is none. -/

namespace IndexWatch.Text.Utf8

/-- The character that stands for bytes that are no text. -/
def replacement : Char := '\uFFFD'

/-- A character that has begun: its bits so far, how many bytes are missing, and the range that the
next one must be in. -/
structure Begun where
  bits : Nat
  missing : Nat
  low : UInt8
  high : UInt8
deriving DecidableEq

/-- What a byte begins, if it can begin a character of more than one byte. -/
def lead? (b : UInt8) : Option Begun :=
  if 0xC2 ≤ b ∧ b ≤ 0xDF then some ⟨b.toNat - 0xC0, 1, 0x80, 0xBF⟩
  else if b = 0xE0 then some ⟨0, 2, 0xA0, 0xBF⟩
  else if b = 0xED then some ⟨0xD, 2, 0x80, 0x9F⟩
  else if 0xE1 ≤ b ∧ b ≤ 0xEF then some ⟨b.toNat - 0xE0, 2, 0x80, 0xBF⟩
  else if b = 0xF0 then some ⟨0, 3, 0x90, 0xBF⟩
  else if 0xF1 ≤ b ∧ b ≤ 0xF3 then some ⟨b.toNat - 0xF0, 3, 0x80, 0xBF⟩
  else if b = 0xF4 then some ⟨4, 3, 0x80, 0x8F⟩
  else none

/-- A byte between characters: what is put out, and what has begun. -/
def feedFresh (b : UInt8) : List Char × Option Begun :=
  if b < 0x80 then ([Char.ofNat b.toNat], none)
  else match lead? b with
    | some begun => ([], some begun)
    | none => ([replacement], none)

/-- A byte within a character; one that does not continue it begins anew. -/
def feedBegun (begun : Begun) (b : UInt8) : List Char × Option Begun :=
  if begun.low ≤ b ∧ b ≤ begun.high then
    let bits := begun.bits * 64 + (b.toNat - 0x80)
    if begun.missing ≤ 1 then ([Char.ofNat bits], none)
    else ([], some ⟨bits, begun.missing - 1, 0x80, 0xBF⟩)
  else
    let (out, next) := feedFresh b
    (replacement :: out, next)

/-- The characters of some bytes, of which the first may continue a character. -/
def decodeFrom : Option Begun → List UInt8 → List Char
  | none, [] => []
  | some _, [] => [replacement]
  | none, b :: rest => let (out, next) := feedFresh b; out ++ decodeFrom next rest
  | some begun, b :: rest => let (out, next) := feedBegun begun b; out ++ decodeFrom next rest

/-- The text that some bytes write. -/
def decodeLossy (bytes : List UInt8) : String := String.ofList (decodeFrom none bytes)

end IndexWatch.Text.Utf8
