import IndexWatch.Credentials.Curve
import IndexWatch.Credentials.Der
import IndexWatch.Credentials.Edwards
import IndexWatch.Credentials.Pem

/-! Private keys that can sign for a client.

`publicKeyOf?` finds the public key that belongs to a private one, written as certificates write it,
so that the two can be compared byte by byte. -/

namespace IndexWatch.Credentials.PrivateKey

open Der

def objectRsa : Bytes := [0x2A, 0x86, 0x48, 0x86, 0xF7, 0x0D, 0x01, 0x01, 0x01]

def objectEllipticCurve : Bytes := [0x2A, 0x86, 0x48, 0xCE, 0x3D, 0x02, 0x01]

def objectEdwards : Bytes := [0x2B, 0x65, 0x70]

/-- A public key as a certificate holds it: the algorithm and the key's bits. -/
def subjectPublicKey (algorithm key : Bytes) : Bytes := write tagSequence algorithm ++ writeBits key

/-! ### Keys of two primes -/

/-- The factors that an RSA key keeps besides the modulus and the two exponents. -/
structure RsaKey where
  modulus : Nat
  publicExponent : Nat
  privateExponent : Nat
  primes : Nat × Nat

/-- Whether the parts of a key belong together, and its size is one that is used. -/
def RsaKey.isSound (key : RsaKey) : Bool :=
  let (p, q) := key.primes
  let product := key.publicExponent * key.privateExponent
  2048 ≤ key.modulus.log2 + 1 && key.modulus.log2 + 1 ≤ 8192 && key.publicExponent % 2 == 1 &&
    2 < key.publicExponent && 1 < p && 1 < q && p * q == key.modulus &&
    product % (p - 1) == 1 && product % (q - 1) == 1

def RsaKey.read? (bytes : Bytes) : Option RsaKey := do
  let contents ← readOnly? tagSequence bytes
  let (0, rest) ← readNatural? contents | none
  let (modulus, rest) ← readNatural? rest
  let (publicExponent, rest) ← readNatural? rest
  let (privateExponent, rest) ← readNatural? rest
  let (p, rest) ← readNatural? rest
  let (q, rest) ← readNatural? rest
  let (_, rest) ← readNatural? rest
  let (_, rest) ← readNatural? rest
  let (_, rest) ← readNatural? rest
  let key : RsaKey := ⟨modulus, publicExponent, privateExponent, (p, q)⟩
  if rest.isEmpty && key.isSound then some key else none

def RsaKey.publicKey (key : RsaKey) : Bytes :=
  subjectPublicKey (write tagObject objectRsa ++ write tagNull [])
    (write tagSequence (writeNatural key.modulus ++ writeNatural key.publicExponent))

/-! ### Keys on a curve -/

/-- The public key of a point, both coordinates written out. -/
def curvePublicKey (curve : Curve) (point : Nat × Nat) : Bytes :=
  subjectPublicKey (write tagObject objectEllipticCurve ++ write tagObject curve.object)
    (0x04 :: toBytesOf curve.bytes point.1 ++ toBytesOf curve.bytes point.2)

/-- An optional part with a number, and the bytes behind it. -/
def readPart? (n : UInt8) (bytes : Bytes) : Option (Option Bytes × Bytes) :=
  match bytes with
  | [] => some (none, [])
  | tag :: _ =>
    if tag = tagPart n then (read? tag bytes).map fun (contents, rest) => (some contents, rest)
    else some (none, bytes)

/-- The public key of a key on a curve; `outer` is the curve that is named outside of the key. A
point that is given must be the one that belongs to the secret. -/
def curveKey? (outer : Option Bytes) (bytes : Bytes) : Option Bytes := do
  let contents ← readOnly? tagSequence bytes
  let (1, rest) ← readNatural? contents | none
  let (secret, rest) ← read? tagOctetString rest
  let (named, rest) ← readPart? 0 rest
  let (point, rest) ← readPart? 1 rest
  if !rest.isEmpty then none
  let inner ← match named with
    | none => some none
    | some part => (readOnly? tagObject part).map some
  let object ← outer.or inner
  if inner.any (· != object) then none
  let curve ← Curve.all.find? (·.object == object)
  let secret := ofBytes secret
  if secret = 0 ∨ curve.order ≤ secret then none
  let key := curvePublicKey curve (curve.publicPoint secret)
  match point with
  | none => some key
  | some part =>
    let (bits, trailing) ← readBits? part
    if !trailing.isEmpty then none
    let given := subjectPublicKey (write tagObject objectEllipticCurve ++ write tagObject object) bits
    if given = key then some key else none

/-! ### Keys of any kind in one envelope -/

/-- The public key of a seed on the Edwards curve. A public key that is given must be that one. -/
def edwardsKey? (secret : Bytes) (publicPart : Option Bytes) : Option Bytes := do
  let seed ← readOnly? tagOctetString secret
  if seed.length ≠ 32 then none
  let key := Edwards.publicKey seed
  if publicPart.all (· == 0 :: key) then some (subjectPublicKey (write tagObject objectEdwards) key)
  else none

/-- The public key of a key in the envelope that names the key's algorithm. -/
def envelopeKey? (bytes : Bytes) : Option Bytes := do
  let contents ← readOnly? tagSequence bytes
  let (version, rest) ← readNatural? contents
  if version > 1 then none
  let (algorithm, rest) ← read? tagSequence rest
  let (secret, rest) ← read? tagOctetString rest
  let (_, rest) ← readPart? 0 rest
  let publicPart := (rest.head?.bind fun tag =>
    if tag = 0x81 then (readOnly? tag rest) else none)
  if !rest.isEmpty && (publicPart.isNone || version = 0) then none
  let (object, parameters) ← read? tagObject algorithm
  if object = objectRsa then
    if parameters = write tagNull [] then (RsaKey.read? secret).map RsaKey.publicKey else none
  else if object = objectEllipticCurve then
    curveKey? (← readOnly? tagObject parameters) secret
  else if object = objectEdwards ∧ parameters.isEmpty then edwardsKey? secret publicPart
  else none

/-- The public key that belongs to the private key of a section. -/
def publicKeyOf? (key : Pem.Section) : Option Bytes :=
  match key.label with
  | .privateKey => envelopeKey? key.contents
  | .rsaPrivateKey => (RsaKey.read? key.contents).map RsaKey.publicKey
  | .ecPrivateKey => curveKey? none key.contents
  | _ => none

end IndexWatch.Credentials.PrivateKey
