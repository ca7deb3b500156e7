import IndexWatch.Credentials.Der

/-! Certificates, as far as a verification reads them: their shape, their version, their extensions
and the key that they certify. -/

namespace IndexWatch.Credentials

open Der

inductive CertificateFault where
  | badEncoding
  | unsupportedVersion
  | signatureAlgorithmMismatch
  | unsupportedCriticalExtension
  | extensionValueInvalid
deriving DecidableEq

namespace CertificateFault

/-- A fault that is told by its name alone. -/
private def named (name : String) : String := s!"Other(OtherError({name}))"

def message (fault : CertificateFault) : String :=
  "invalid peer certificate: " ++ match fault with
    | badEncoding => "BadEncoding"
    | unsupportedVersion => named "UnsupportedCertVersion"
    | signatureAlgorithmMismatch => named "SignatureAlgorithmMismatch"
    | unsupportedCriticalExtension => named "UnsupportedCriticalExtension"
    | extensionValueInvalid => named "ExtensionValueInvalid"

end CertificateFault

/-- What is kept of a certificate: who it is for, and the key that it certifies. -/
structure Certificate where
  subject : Bytes
  publicKey : Bytes
deriving DecidableEq

namespace Certificate

/-- A step of the reading; without a fault of its own it is a bad encoding. -/
def ofOption {α : Type} (value : Option α) : Except CertificateFault α :=
  match value with
  | some value => .ok value
  | none => .error .badEncoding

structure Extension where
  object : Bytes
  critical : Bool
  value : Bytes

/-- A flag that is only written where it is set; written out, it is all ones or all zeros. -/
def readFlag? (bytes : Bytes) : Option (Bool × Bytes) :=
  match bytes with
  | 0x01 :: _ => do
    match ← read? tagBoolean bytes with
    | ([0xFF], rest) => some (true, rest)
    | ([0x00], rest) => some (false, rest)
    | _ => none
  | _ => some (false, bytes)

def Extension.read? (contents : Bytes) : Option Extension := do
  let (object, rest) ← Der.read? tagObject contents
  let (critical, rest) ← readFlag? rest
  let value ← readOnly? tagOctetString rest
  return ⟨object, critical, value⟩

/-- The last part of the object identifiers of standard extensions that are understood: key usage,
alternative names, basic constraints, name constraints, revocation list places, extended key usage. -/
def understoodExtensions : List UInt8 := [15, 17, 19, 30, 31, 37]

/-- Which extension understood it is, if it is one. -/
def Extension.understood? (extension : Extension) : Option UInt8 :=
  match extension.object with
  | [0x55, 0x1D, n] => if understoodExtensions.contains n then some n else none
  | _ => none

/-- Checks an extension, given those that came before it. -/
def checkExtension (seen : List UInt8) (contents : Bytes) : Except CertificateFault (List UInt8) := do
  let extension ← ofOption (Extension.read? contents)
  match extension.understood? with
  | none => if extension.critical then throw .unsupportedCriticalExtension else return seen
  | some n =>
    if seen.contains n then throw .extensionValueInvalid
    if n = 15 then return n :: seen
    let _ ← ofOption (readOnly? tagSequence extension.value)
    return n :: seen

/-- Checks extensions one after the other. The number bounds them. -/
def checkExtensions : Nat → List UInt8 → Bytes → Except CertificateFault Unit
  | _, _, [] => .ok ()
  | 0, _, _ :: _ => .error .badEncoding
  | fuel + 1, seen, bytes => do
    let (contents, rest) ← ofOption (Der.read? tagSequence bytes)
    checkExtensions fuel (← checkExtension seen contents) rest

/-- The version, which must be the third. -/
def readVersion (bytes : Bytes) : Except CertificateFault Bytes := do
  match Der.read? (tagPart 0) bytes with
  | none => throw .unsupportedVersion
  | some (contents, rest) =>
    let (version, trailing) ← ofOption (readNatural? contents)
    if version ≥ 256 then throw .badEncoding
    if version ≠ 2 ∨ !trailing.isEmpty then throw .unsupportedVersion
    return rest

/-- The contents of a certificate; longer ones are not read. -/
def readWhole? (bytes : Bytes) : Option Bytes := do
  let contents ← readOnly? tagSequence bytes
  if contents.length < 0xFFFF then some contents else none

/-- What a certificate signs, what signs it, and nothing else. -/
def readSigned? (bytes : Bytes) : Option (Bytes × Bytes) := do
  let outer ← readWhole? bytes
  let (body, rest) ← Der.read? tagSequence outer
  let (algorithm, rest) ← Der.read? tagSequence rest
  let (_, rest) ← readBits? rest
  if rest.isEmpty then some (body, algorithm) else none

/-- A certificate of the third version. -/
def read (bytes : Bytes) : Except CertificateFault Certificate := do
  let (body, algorithm) ← ofOption (readSigned? bytes)
  let rest ← readVersion body
  let (_, rest) ← ofOption (Der.read? tagInteger rest)
  let (signature, rest) ← ofOption (Der.read? tagSequence rest)
  if signature ≠ algorithm then throw .signatureAlgorithmMismatch
  let (_, rest) ← ofOption (Der.read? tagSequence rest)
  let (_, rest) ← ofOption (Der.read? tagSequence rest)
  let (subject, rest) ← ofOption (Der.read? tagSequence rest)
  let (publicKey, rest) ← ofOption (Der.read? tagSequence rest)
  if !rest.isEmpty then
    let (tagged, trailing) ← ofOption (Der.read? (tagPart 3) rest)
    let extensions ← ofOption (readOnly? tagSequence tagged)
    checkExtensions extensions.length [] extensions
    if !trailing.isEmpty then throw .badEncoding
  return ⟨subject, publicKey⟩

/-- A certificate of the first version, which has neither version nor extensions. -/
def readFirstVersion? (bytes : Bytes) : Option Certificate := do
  let outer ← readWhole? bytes
  let (body, rest) ← Der.read? tagSequence outer
  let (_, rest) ← Der.read? tagSequence rest
  let (_, rest) ← Der.read? tagBitString rest
  if !rest.isEmpty then none
  let (_, body) ← Der.read? tagInteger body
  let (_, body) ← Der.read? tagSequence body
  let (_, body) ← Der.read? tagSequence body
  let (_, body) ← Der.read? tagSequence body
  let (subject, body) ← Der.read? tagSequence body
  let (publicKey, body) ← Der.read? tagSequence body
  if body.isEmpty then some ⟨subject, publicKey⟩ else none

/-- A certificate that is trusted as it is; it may be of the first version. -/
def readAnchor (bytes : Bytes) : Except CertificateFault Certificate :=
  match read bytes with
  | .error .unsupportedVersion => ofOption (readFirstVersion? bytes)
  | result => result

end Certificate

end IndexWatch.Credentials
