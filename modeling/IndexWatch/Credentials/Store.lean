import IndexWatch.Attempt
import IndexWatch.Credentials.Bundle

/-! Loading credentials from a secret. -/

namespace IndexWatch.Credentials

open Der

/-- The entries of a secret by their names. -/
abbrev SecretData := List (String × Bytes)

/-- The secrets of a world. -/
structure SecretStore (σ : Type) where
  /-- The data of a secret by its namespace and name, or nothing where it does not exist. -/
  get : String → String → Attempt σ (Option SecretData)

/-- An entry of a secret that is there and not empty. -/
def SecretData.find? (data : SecretData) (name : String) : Option Bytes :=
  match data.lookup name with
  | some [] | none => none
  | some bytes => some bytes

def requireEntry (secret : String) (data : SecretData) (entry : Entry) : Except Error Bytes :=
  match data.find? entry.name with
  | some bytes => .ok bytes
  | none => .error (.credentialUnavailable secret ("missing required key " ++ entry.name))

/-- The bundle that a secret holds, if the secret exists. All its entries are looked for before one
of them is read. -/
def bundleOf (secret : String) : Option SecretData → Except Error Bundle
  | none => .error (.credentialUnavailable secret "secret not found")
  | some data => do
    let ca ← requireEntry secret data .ca
    let cert ← requireEntry secret data .cert
    let key ← requireEntry secret data .key
    Bundle.ofPem secret ca cert key

variable {σ : Type}

/-- Asks the store once and builds the bundle. -/
def loadBundle (store : SecretStore σ) (ns name : String) : Attempt σ Bundle := do
  let data ← store.get ns name
  .ofExcept (bundleOf (ns ++ "/" ++ name) data)

end IndexWatch.Credentials
