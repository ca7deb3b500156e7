import IndexWatch.Proofs.Credentials.Loading
import IndexWatch.Proofs.Record
import Mathlib.Tactic.Choose

/-! # Which fault of a secret is told

A secret may have several faults at once. All entries are looked for before one of them is read, and
both are done in one order, so that the first fault decides: `loadBundle_decided` tells for every
answer of the store what is loaded, and names the entry where the loading stops, whatever else is
wrong with the entries after it. The store is asked once. -/

namespace IndexWatch.Credentials

open Der

namespace Entry

/-- The entries that are looked for, and read, before an entry. -/
def before : Entry → List Entry
  | ca => []
  | cert => [ca]
  | key => [ca, cert]

/-- The entry has a fault, and none of those before it has. -/
def First (faulty : Entry → Prop) (entry : Entry) : Prop :=
  faulty entry ∧ ∀ earlier ∈ entry.before, ¬ faulty earlier

/-- The text of an entry can be read on its own. Its sections are well formed; one of them is a
certificate, and all certificates of the first entry can be trusted; or one is a private key of a kind
that is supported. -/
def Readable (text : Bytes) : Entry → Prop
  | ca => ∃ certs, Pem.certificates text = .ok certs ∧ certs ≠ [] ∧
      ∀ cert ∈ certs, ∃ root, Certificate.readAnchor cert = .ok root
  | cert => ∃ certs, Pem.certificates text = .ok certs ∧ certs ≠ []
  | key => ∃ key publicKey, Pem.privateKey? text = .ok (some key) ∧
      PrivateKey.publicKeyOf? key = some publicKey

end Entry

/-! ## Reading the texts -/

namespace Bundle

variable {text : Bytes}

theorem certificates_eq_ok_iff {certs : List Bytes} :
    certificates text = .ok certs ↔ Pem.certificates text = .ok certs ∧ certs ≠ [] := by
  unfold certificates
  cases Pem.certificates text with
  | error fault => simp
  | ok found =>
    cases found with
    | nil => simp
    | cons cert found =>
      simp only [Except.ok.injEq, iff_self_and]
      rintro rfl
      exact List.cons_ne_nil _ _

theorem exists_certificates_iff :
    (∃ certs, certificates text = .ok certs) ↔ Entry.cert.Readable text := by
  simp only [certificates_eq_ok_iff, Entry.Readable]

theorem exists_readRoots_iff :
    (∃ roots, readRoots text = .ok roots) ↔ Entry.ca.Readable text := by
  unfold readRoots
  simp only [bind_eq_ok_iff, certificates_eq_ok_iff]
  constructor
  · rintro ⟨roots, certs, ⟨hcerts, hne⟩, hroots⟩
    refine ⟨certs, hcerts, hne, fun cert hcert => ?_⟩
    obtain ⟨root, hroot⟩ := exists_mapM_eq_ok_iff.mp ⟨roots, hroots⟩ cert hcert
    exact ⟨root, mapError_eq_ok_iff.mp hroot⟩
  · rintro ⟨certs, hcerts, hne, hanchors⟩
    obtain ⟨roots, hroots⟩ := exists_mapM_eq_ok_iff.mpr fun cert hcert =>
      (hanchors cert hcert).imp fun root hroot => mapError_eq_ok_iff.mpr hroot
    exact ⟨roots, certs, ⟨hcerts, hne⟩, hroots⟩

theorem exists_readKey_iff :
    (∃ read, readKey text = .ok read) ↔ Entry.key.Readable text := by
  unfold readKey Entry.Readable
  cases Pem.privateKey? text with
  | error fault => simp
  | ok found =>
    cases found with
    | none => simp
    | some key => cases hpublic : PrivateKey.publicKeyOf? key <;> simp [hpublic]

/-! ## Building a bundle -/

section
variable {secret : String} {texts : Entry → Bytes}

/-- The first text that cannot be read is told. -/
theorem ofPem_eq_error_of_first {entry : Entry}
    (H : entry.First fun entry => ¬ entry.Readable (texts entry)) :
    ∃ reason, ofPem secret (texts .ca) (texts .cert) (texts .key) =
      .error (.credentialMalformed secret entry.name reason) := by
  obtain ⟨hentry, hearlier⟩ := H
  have hreadable (earlier : Entry) (h : earlier ∈ entry.before) :
      earlier.Readable (texts earlier) := Classical.not_not.mp (hearlier earlier h)
  cases entry with
  | ca =>
    obtain ⟨reason, hreason⟩ := exists_error_iff.mpr (mt exists_readRoots_iff.mp hentry)
    refine ⟨reason, ?_⟩
    rw [ofPem, hreason]
    rfl
  | cert =>
    obtain ⟨roots, hroots⟩ := exists_readRoots_iff.mpr (hreadable .ca (by decide))
    obtain ⟨reason, hreason⟩ := exists_error_iff.mpr (mt exists_certificates_iff.mp hentry)
    refine ⟨reason, ?_⟩
    rw [ofPem, hroots, hreason]
    rfl
  | key =>
    obtain ⟨roots, hroots⟩ := exists_readRoots_iff.mpr (hreadable .ca (by decide))
    obtain ⟨certs, hcerts⟩ := exists_certificates_iff.mpr (hreadable .cert (by decide))
    obtain ⟨reason, hreason⟩ := exists_error_iff.mpr (mt exists_readKey_iff.mp hentry)
    refine ⟨reason, ?_⟩
    rw [ofPem, hroots, hcerts, hreason]
    rfl

theorem malformed_eq_error {α : Type} {entry : Entry} {result : Except String α} {e : Error}
    (h : malformed secret entry result = .error e) :
    ∃ reason, e = .credentialMalformed secret entry.name reason := by
  cases result with
  | error reason => exact ⟨reason, (Except.error.inj h).symm⟩
  | ok a => contradiction

/-- Texts that are there are never said to be missing. -/
theorem ofPem_eq_error {ca cert key : Bytes} {e : Error} (h : ofPem secret ca cert key = .error e) :
    ∃ entry reason, e = .credentialMalformed secret (Entry.name entry) reason := by
  unfold ofPem at h
  simp only [bind_eq_error_iff] at h
  rcases h with hroots | ⟨_, _, hchain | ⟨_, _, hkey | ⟨_, _, hmatch | ⟨_, _, h⟩⟩⟩⟩
  · exact ⟨_, malformed_eq_error hroots⟩
  · exact ⟨_, malformed_eq_error hchain⟩
  · exact ⟨_, malformed_eq_error hkey⟩
  · exact ⟨_, malformed_eq_error hmatch⟩
  · contradiction

end

end Bundle

/-! ## Looking for the entries -/

/-- The entry is not there, or is empty. -/
def SecretData.Lacks (data : SecretData) (entry : Entry) : Prop :=
  data.lookup entry.name = none ∨ data.lookup entry.name = some []

section
variable {secret : String} {data : SecretData} {entry : Entry}

theorem requireEntry_of_lacks (h : data.Lacks entry) :
    requireEntry secret data entry =
      .error (.credentialUnavailable secret ("missing required key " ++ entry.name)) := by
  rcases h with h | h <;> simp [requireEntry, SecretData.find?, h]

theorem exists_text_of_not_lacks (h : ¬ data.Lacks entry) :
    ∃ text, data.lookup entry.name = some text ∧
      ∀ secret, requireEntry secret data entry = .ok text := by
  cases hlookup : data.lookup entry.name with
  | none => exact absurd (.inl hlookup) h
  | some text =>
    cases text with
    | nil => exact absurd (.inr hlookup) h
    | cons b text =>
      refine ⟨_, rfl, fun secret => ?_⟩
      simp [requireEntry, SecretData.find?, hlookup]

theorem bundleOf_of_first (H : entry.First data.Lacks) :
    bundleOf secret (some data) =
      .error (.credentialUnavailable secret ("missing required key " ++ entry.name)) := by
  obtain ⟨hentry, hearlier⟩ := H
  have hrequired (earlier : Entry) (h : earlier ∈ entry.before) :
      ∃ text, requireEntry secret data earlier = .ok text := by
    obtain ⟨text, _, htext⟩ := exists_text_of_not_lacks (hearlier earlier h)
    exact ⟨text, htext secret⟩
  have hmissing : requireEntry secret data entry = _ := requireEntry_of_lacks hentry
  cases entry with
  | ca =>
    rw [bundleOf, hmissing]
    rfl
  | cert =>
    obtain ⟨ca, hca⟩ := hrequired .ca (by decide)
    rw [bundleOf, hca, hmissing]
    rfl
  | key =>
    obtain ⟨ca, hca⟩ := hrequired .ca (by decide)
    obtain ⟨cert, hcert⟩ := hrequired .cert (by decide)
    rw [bundleOf, hca, hcert, hmissing]
    rfl

theorem bundleOf_of_complete (h : ∀ entry, ¬ data.Lacks entry) :
    ∃ texts : Entry → Bytes, (∀ entry, data.lookup entry.name = some (texts entry)) ∧
      ∀ secret, bundleOf secret (some data) =
        Bundle.ofPem secret (texts .ca) (texts .cert) (texts .key) := by
  choose texts htexts using fun entry => exists_text_of_not_lacks (h entry)
  refine ⟨texts, fun entry => (htexts entry).1, fun secret => ?_⟩
  rw [bundleOf, (htexts .ca).2, (htexts .cert).2, (htexts .key).2]
  rfl

/-- What else a secret holds has no part in it. -/
theorem bundleOf_congr {data' : SecretData}
    (h : ∀ entry : Entry, data.lookup entry.name = data'.lookup entry.name) :
    bundleOf secret (some data) = bundleOf secret (some data') := by
  have hrequired (entry : Entry) :
      requireEntry secret data entry = requireEntry secret data' entry := by
    rw [requireEntry, SecretData.find?, h, ← SecretData.find?, ← requireEntry]
  simp only [bundleOf, hrequired]

end

/-! ## Loading -/

variable {σ : Type}

/-- The same store, where the secrets that it is asked for are written down. -/
def SecretStore.recorded (store : SecretStore σ) : SecretStore (Recorded (String × String) σ) where
  get ns name := .ofTimed (Recorded.noting (ns, name) (store.get ns name).run)

/-- What is loaded, for every answer of the store. -/
structure Loaded (store : SecretStore σ) (ns name : String) (now : Nat) (world : σ)
    (loaded : Outcome σ (Except Error Bundle)) : Prop where
  /-- With a store that keeps a record the same is loaded, and the record has one more entry. -/
  asks_once (record : List (Nat × String × String)) :
    Timed.run (loadBundle store.recorded ns name) now ⟨record, world⟩ =
      loaded.recorded (record ++ [(now, ns, name)])
  failed {e : Error} : (Timed.run (store.get ns name) now world).value = .error e →
    loaded.value = .error e
  absent : (Timed.run (store.get ns name) now world).value = .ok none →
    loaded.value = .error (.credentialUnavailable (ns ++ "/" ++ name) "secret not found")
  lacking {data : SecretData} {entry : Entry} :
    (Timed.run (store.get ns name) now world).value = .ok (some data) → entry.First data.Lacks →
    loaded.value = .error
      (.credentialUnavailable (ns ++ "/" ++ name) ("missing required key " ++ entry.name))
  complete {data : SecretData} :
    (Timed.run (store.get ns name) now world).value = .ok (some data) →
    (∀ entry, ¬ data.Lacks entry) →
    ∃ texts : Entry → Bytes, (∀ entry, data.lookup entry.name = some (texts entry)) ∧
      loaded.value = Bundle.ofPem (ns ++ "/" ++ name) (texts .ca) (texts .cert) (texts .key) ∧
      (∀ secret reason, loaded.value ≠ .error (.credentialUnavailable secret reason)) ∧
      ∀ entry : Entry, (entry.First fun entry => ¬ entry.Readable (texts entry)) →
        ∃ reason, loaded.value =
          .error (.credentialMalformed (ns ++ "/" ++ name) entry.name reason)
  /-- A store whose secret has the same three entries and any others leads to the same. -/
  unaffected {τ : Type} {store' : SecretStore τ} {now' : Nat} {world' : τ}
    {data data' : SecretData} :
    (Timed.run (store.get ns name) now world).value = .ok (some data) →
    (Timed.run (store'.get ns name) now' world').value = .ok (some data') →
    (∀ entry : Entry, data.lookup entry.name = data'.lookup entry.name) →
    loaded.value = (Timed.run (loadBundle store' ns name) now' world').value

/-- **What is loaded.** The store is asked once. Its failure is passed on, a secret that is not there or
lacks an entry is unavailable, and else the three texts decide; in each case the first fault is told,
in the order of the entries. -/
theorem loadBundle_decided (store : SecretStore σ) (ns name : String) (now : Nat) (world : σ) :
    Loaded store ns name now world (Timed.run (loadBundle store ns name) now world) where
  asks_once record := by
    have hfollows : Recorded.Follows Recorded.mk (store.recorded.get ns name).run
        (store.get ns name).run fun now _ => [(now, ns, name)] :=
      Recorded.follows_noting _ _
    exact hfollows.judged (bundleOf (ns ++ "/" ++ name)) now record world
  failed h := by
    rw [value_loadBundle, h]
    rfl
  absent h := by
    rw [value_loadBundle, h]
    rfl
  lacking h hfirst := by
    rw [value_loadBundle, h]
    exact bundleOf_of_first hfirst
  complete h hcomplete := by
    obtain ⟨texts, htexts, hbundle⟩ := bundleOf_of_complete hcomplete
    have hvalue : (Timed.run (loadBundle store ns name) now world).value =
        Bundle.ofPem (ns ++ "/" ++ name) (texts .ca) (texts .cert) (texts .key) := by
      rw [value_loadBundle, h]
      exact hbundle _
    refine ⟨texts, htexts, hvalue, fun secret reason hnone => ?_, fun entry hfirst => ?_⟩
    · obtain ⟨_, _, hmalformed⟩ := Bundle.ofPem_eq_error (hvalue.symm.trans hnone)
      contradiction
    · rw [hvalue]
      exact Bundle.ofPem_eq_error_of_first hfirst
  unaffected h h' hentries := by
    rw [value_loadBundle, value_loadBundle, h, h']
    exact bundleOf_congr hentries

end IndexWatch.Credentials
