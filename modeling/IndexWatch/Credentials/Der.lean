/-! Tagged values with definite lengths.

An element is a tag, a length in its shortest form, and as many bytes. Tags of more than one byte are
not read. -/

namespace IndexWatch.Credentials.Der

abbrev Bytes := List UInt8

/-- The tags that certificates and keys are made of. -/
def tagBoolean : UInt8 := 0x01
def tagInteger : UInt8 := 0x02
def tagBitString : UInt8 := 0x03
def tagOctetString : UInt8 := 0x04
def tagNull : UInt8 := 0x05
def tagObject : UInt8 := 0x06
def tagSequence : UInt8 := 0x30

/-- The tag of a part that is told apart by its number. -/
def tagPart (n : UInt8) : UInt8 := 0xA0 + n

/-- A number in bytes, the highest first. -/
def ofBytes (bytes : Bytes) : Nat := bytes.foldl (fun n b => 256 * n + b.toNat) 0

/-- A length of `count` bytes, which fewer bytes could not write. -/
def readLongLength? (count : Nat) (bytes : Bytes) : Option (Nat × Bytes) :=
  let length := ofBytes (bytes.take count)
  if bytes.length < count then none
  else if length < (if count = 1 then 128 else Nat.pow 256 (count - 1)) then none
  else some (length, bytes.drop count)

def readLength? : Bytes → Option (Nat × Bytes)
  | [] => none
  | b :: rest =>
    if b < 0x80 then some (b.toNat, rest)
    else if 0x81 ≤ b ∧ b ≤ 0x84 then readLongLength? (b.toNat - 0x80) rest
    else none

/-- An element: its tag, its contents, and the bytes behind it. -/
def readElement? : Bytes → Option (UInt8 × Bytes × Bytes)
  | [] => none
  | tag :: rest => do
    if tag % 32 = 31 then none
    let (length, rest) ← readLength? rest
    if rest.length < length then none
    return (tag, rest.take length, rest.drop length)

/-- The contents of an element with a tag, and the bytes behind it. -/
def read? (tag : UInt8) (bytes : Bytes) : Option (Bytes × Bytes) := do
  let (found, contents, rest) ← readElement? bytes
  if found = tag then some (contents, rest) else none

/-- The contents of an element with a tag that nothing follows. -/
def readOnly? (tag : UInt8) (bytes : Bytes) : Option Bytes := do
  let (contents, rest) ← read? tag bytes
  if rest.isEmpty then some contents else none

/-- A number that is not negative, written with as few bytes as possible. -/
def natural? : Bytes → Option Nat
  | [] => none
  | [b] => if b < 0x80 then some b.toNat else none
  | a :: b :: rest =>
    if a ≥ 0x80 ∨ (a = 0 ∧ b < 0x80) then none else some (ofBytes (a :: b :: rest))

/-- The next element as a number. -/
def readNatural? (bytes : Bytes) : Option (Nat × Bytes) := do
  let (contents, rest) ← read? tagInteger bytes
  return (← natural? contents, rest)

/-- A bit string that is made of whole bytes. -/
def readBits? (bytes : Bytes) : Option (Bytes × Bytes) := do
  let (contents, rest) ← read? tagBitString bytes
  match contents with
  | 0 :: bits => some (bits, rest)
  | _ => none

/-- The bytes of a number, the highest first, as few as possible. The number bounds them. -/
def toBytesFrom : Nat → Nat → Bytes → Bytes
  | 0, _, done => done
  | fuel + 1, n, done => if n = 0 then done else toBytesFrom fuel (n / 256) (.ofNat (n % 256) :: done)

def toBytes (n : Nat) : Bytes := toBytesFrom (n.log2 / 8 + 1) n []

/-- A number in a fixed count of bytes. -/
def toBytesOf (count n : Nat) : Bytes :=
  let bytes := toBytes n
  List.replicate (count - bytes.length) 0 ++ bytes

def writeLength (n : Nat) : Bytes :=
  if n < 128 then [.ofNat n]
  else
    let bytes := toBytes n
    .ofNat (0x80 + bytes.length) :: bytes

def write (tag : UInt8) (contents : Bytes) : Bytes :=
  tag :: writeLength contents.length ++ contents

def writeNatural (n : Nat) : Bytes :=
  let bytes := toBytes n
  write tagInteger <| match bytes with
    | [] => [0]
    | b :: _ => if b ≥ 0x80 then 0 :: bytes else bytes

def writeBits (bits : Bytes) : Bytes := write tagBitString (0 :: bits)

end IndexWatch.Credentials.Der
