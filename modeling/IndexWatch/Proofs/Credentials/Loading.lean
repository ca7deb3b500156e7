import IndexWatch.Credentials.Store
import IndexWatch.Proofs.Except

/-! # Where credentials come from

`Held secret data bundle` says what a bundle has from each entry of a secret. By
`value_loadBundle_eq_ok_iff`, what is loaded is a bundle that is held by the secret that the store
gives out, and every such bundle is loaded. -/

namespace IndexWatch.Credentials

open Der

/-- The bundle is made of the three texts, and the key is that of the first certificate. -/
structure Bundle.MadeOf (bundle : Bundle) (secret : String) (ca cert key : Bytes) : Prop where
  secret_eq : bundle.secret = secret
  roots : readRoots ca = .ok bundle.roots
  chain : certificates cert = .ok bundle.clientChain
  key : ∃ publicKey, readKey key = .ok (bundle.clientKey, publicKey) ∧
    matchKey bundle.clientChain (some publicKey) = .ok ()

/-- The bundle is made of the three entries of a secret. -/
def Held (secret : String) (data : SecretData) (bundle : Bundle) : Prop :=
  ∃ ca cert key, data.find? Entry.ca.name = some ca ∧ data.find? Entry.cert.name = some cert ∧
    data.find? Entry.key.name = some key ∧ bundle.MadeOf secret ca cert key

variable {σ : Type} {secret : String} {data : SecretData} {bundle : Bundle}

theorem Bundle.publicKeyOf?_of_readKey {text : Bytes} {key : Pem.Section} {publicKey : Bytes}
    (h : readKey text = .ok (key, publicKey)) : PrivateKey.publicKeyOf? key = some publicKey := by
  unfold readKey at h
  split at h
  · contradiction
  · contradiction
  · next hfound =>
    split at h
    · next hpublic =>
      cases h
      exact hpublic
    · contradiction

theorem Bundle.malformed_eq_ok_iff {α : Type} {entry : Entry} {result : Except String α} {a : α} :
    malformed secret entry result = .ok a ↔ result = .ok a :=
  mapError_eq_ok_iff

theorem Bundle.ofPem_eq_ok_iff {ca cert key : Bytes} :
    ofPem secret ca cert key = .ok bundle ↔ bundle.MadeOf secret ca cert key := by
  unfold ofPem
  simp only [bind_eq_ok_iff, malformed_eq_ok_iff, mapError_eq_ok_iff]
  constructor
  · rintro ⟨roots, hroots, chain, hchain, ⟨clientKey, publicKey⟩, hkey, _, hmatch, h⟩
    cases h
    exact ⟨rfl, hroots, hchain, publicKey, hkey, hmatch⟩
  · rintro ⟨rfl, hroots, hchain, publicKey, hkey, hmatch⟩
    exact ⟨_, hroots, _, hchain, _, hkey, (), hmatch, rfl⟩

theorem requireEntry_eq_ok_iff {entry : Entry} {bytes : Bytes} :
    requireEntry secret data entry = .ok bytes ↔ data.find? entry.name = some bytes := by
  unfold requireEntry
  cases data.find? entry.name <;> simp

theorem bundleOf_eq_ok_iff {found : Option SecretData} :
    bundleOf secret found = .ok bundle ↔ ∃ data, found = some data ∧ Held secret data bundle := by
  cases found with
  | none => simp [bundleOf]
  | some data =>
    simp only [bundleOf, bind_eq_ok_iff, requireEntry_eq_ok_iff, Bundle.ofPem_eq_ok_iff,
      Option.some.injEq, exists_eq_left']
    constructor
    · rintro ⟨ca, hca, cert, hcert, key, hkey, H⟩
      exact ⟨ca, cert, key, hca, hcert, hkey, H⟩
    · rintro ⟨ca, cert, key, hca, hcert, hkey, H⟩
      exact ⟨ca, hca, cert, hcert, key, hkey, H⟩

section
variable {store : SecretStore σ} {ns name : String} {now : Nat} {world : σ}

theorem value_loadBundle :
    (Timed.run (loadBundle store ns name) now world).value =
      (Timed.run (store.get ns name) now world).value >>= bundleOf (ns ++ "/" ++ name) :=
  Attempt.value_bind_ofExcept

theorem value_loadBundle_eq_ok_iff :
    (Timed.run (loadBundle store ns name) now world).value = .ok bundle ↔
      ∃ data, (Timed.run (store.get ns name) now world).value = .ok (some data) ∧
        Held (ns ++ "/" ++ name) data bundle := by
  rw [value_loadBundle, bind_eq_ok_iff]
  constructor
  · rintro ⟨found, hfound, h⟩
    obtain ⟨data, rfl, H⟩ := bundleOf_eq_ok_iff.mp h
    exact ⟨data, hfound, H⟩
  · rintro ⟨data, hfound, H⟩
    exact ⟨some data, hfound, bundleOf_eq_ok_iff.mpr ⟨data, rfl, H⟩⟩

end

end IndexWatch.Credentials
