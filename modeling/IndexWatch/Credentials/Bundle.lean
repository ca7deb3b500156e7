import IndexWatch.Credentials.Certificate
import IndexWatch.Credentials.PrivateKey
import IndexWatch.Error

/-! The credentials of a verification: whom it trusts and what it shows of itself.

`Bundle.ofPem` builds a bundle from three texts and refuses a client key that does not belong to the
client certificate, so that a bad secret fails before any connection is made. -/

namespace IndexWatch.Credentials

open Text Der

/-- The entries of a secret that hold credentials. -/
inductive Entry where
  | ca
  | cert
  | key
deriving DecidableEq

def Entry.name : Entry → String
  | ca => "admin-ca"
  | cert => "admin-cert"
  | key => "admin-key"

/-- Trusted certificates, and the client's certificates and private key. -/
structure Bundle where
  /-- The name of the secret that the bundle comes from. -/
  secret : String
  roots : List Certificate
  clientChain : List Bytes
  clientKey : Pem.Section
deriving DecidableEq

/-- Why a private key does not belong to a certificate. -/
inductive KeyFault where
  | unknown
  | mismatch
  | certificate (fault : CertificateFault)
deriving DecidableEq

def KeyFault.message : KeyFault → String
  | unknown => "keys may not be consistent: Unknown"
  | mismatch => "keys may not be consistent: KeyMismatch"
  | certificate fault => fault.message

namespace Bundle

/-- The certificates of a text, of which there must be one. -/
def certificates (text : Bytes) : Except String (List Bytes) :=
  match Pem.certificates text with
  | .error fault => .error ("Failed to parse certificate: " ++ fault.message)
  | .ok [] => .error "No certificates found in PEM data"
  | .ok certs => .ok certs

/-- The certificates that are trusted. -/
def readRoots (text : Bytes) : Except String (List Certificate) := do
  (← certificates text).mapM fun cert =>
    (Certificate.readAnchor cert).mapError fun fault => "Failed to add CA cert: " ++ fault.message

/-- What is said of a private key of a kind that is not supported. -/
def unsupportedKey : String :=
  "unexpected error: failed to parse private key as RSA, ECDSA, or EdDSA"

/-- The private key of a text, with the public key that belongs to it. -/
def readKey (text : Bytes) : Except String (Pem.Section × Bytes) :=
  match Pem.privateKey? text with
  | .error fault => .error ("Failed to parse private key: " ++ fault.message)
  | .ok none => .error "No private key found in PEM data"
  | .ok (some key) =>
    match PrivateKey.publicKeyOf? key with
    | some publicKey => .ok (key, publicKey)
    | none => .error ("Unsupported private key: " ++ unsupportedKey)

/-- Whether the first certificate of a chain certifies the public key of a private key, which not
every key tells. -/
def keysMatch (chain : List Bytes) (publicKey : Option Bytes) : Except KeyFault Unit :=
  match publicKey, Certificate.read (chain.headD []) with
  | none, _ => .error .unknown
  | some _, .error fault => .error (.certificate fault)
  | some publicKey, .ok leaf => if leaf.publicKey = publicKey then .ok () else .error .mismatch

/-- Whether a chain may be shown with a private key. A key that does not tell its public key may be
used with every chain. -/
def matchKey (chain : List Bytes) (publicKey : Option Bytes) : Except KeyFault Unit :=
  match keysMatch chain publicKey with
  | .error .unknown => .ok ()
  | result => result

/-- A reason that concerns one entry of a secret, as an error. -/
def malformed {α : Type} (secret : String) (entry : Entry) (result : Except String α) :
    Except Error α :=
  result.mapError (Error.credentialMalformed secret entry.name)

/-- The bundle of three texts. `secret` names where they come from. -/
def ofPem (secret : String) (ca cert key : Bytes) : Except Error Bundle := do
  let roots ← malformed secret .ca (readRoots ca)
  let clientChain ← malformed secret .cert (certificates cert)
  let (clientKey, publicKey) ← malformed secret .key (readKey key)
  malformed secret .key <| (matchKey clientChain (some publicKey)).mapError fun fault =>
    "Client key does not match certificate: " ++ fault.message
  return { secret, roots, clientChain, clientKey }

/-- The bundle for diagnostics, without the key. -/
def spelling (bundle : Bundle) : String :=
  spellRecord "CredentialBundle"
    [("secret", spell bundle.secret), ("roots", toString bundle.roots.length),
      ("client_chain", toString bundle.clientChain.length), ("client_key", spell "<redacted>")]

end Bundle

end IndexWatch.Credentials
