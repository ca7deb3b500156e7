import IndexWatch.Proofs.Credentials.Faults
import IndexWatch.Proofs.Credentials.Layout

/-! # All of what a secret trusts, or nothing

A bundle that trusts less than its secret says, or shows less of a chain, would only be noticed when
a connection fails. `Bundle.keepsAll` tells that there is none: every certificate of the first entry
is an anchor of the bundle, every certificate of the second is in its chain, and one block that
cannot be used is the end of it, wherever it stands. -/

namespace IndexWatch.Credentials

open Der Pem

variable {text ca cert key : Bytes} {blocks : List Block} {secret : String}

/-! ## Blocks that can be trusted -/

/-- The block is a certificate to trust. -/
def Pem.Block.Anchors (block : Block) (root : Certificate) : Prop :=
  ∃ cert, block.Encodes cert ∧ Certificate.readAnchor cert = .ok root

/-- The block does not keep a text from being trusted: it is sound, and an anchor if it is a
certificate. -/
def Pem.Block.Trusted (block : Block) : Prop :=
  block.Sound ∧ (block.isCertificate = true → ∃ root, block.Anchors root)

/-- The same certificates stand in both texts, whatever else there is in them. -/
def Pem.SameCertificates (text text' : Bytes) : Prop :=
  ∃ blocks blocks', Layout (Pem.lines text) blocks ∧ Layout (Pem.lines text') blocks' ∧
    (∀ block ∈ blocks, block.Sound) ∧ (∀ block ∈ blocks', block.Sound) ∧
    blocks.filter Block.isCertificate = blocks'.filter Block.isCertificate

/-! ## Texts that can be trusted -/

theorem Bundle.readRoots_eq_ok_iff {roots : List Certificate} (H : Layout (Pem.lines text) blocks) :
    readRoots text = .ok roots ↔ (∀ block ∈ blocks, block.Sound) ∧ roots ≠ [] ∧
      List.Forall₂ Block.Anchors (blocks.filter Block.isCertificate) roots := by
  unfold readRoots
  simp only [bind_eq_ok_iff, certificates_eq_ok_iff, H.certificates_eq_ok_iff, mapM_eq_ok_iff,
    mapError_eq_ok_iff]
  constructor
  · rintro ⟨certs, ⟨⟨hsound, hcerts⟩, hne⟩, hroots⟩
    refine ⟨hsound, ?_, exists_forall₂_and_forall₂_iff.mp ⟨certs, hcerts, hroots⟩⟩
    rintro rfl
    exact hne (List.forall₂_nil_right_iff.mp hroots)
  · rintro ⟨hsound, hne, hanchors⟩
    obtain ⟨certs, hcerts, hroots⟩ := exists_forall₂_and_forall₂_iff.mpr hanchors
    refine ⟨certs, ⟨⟨hsound, hcerts⟩, ?_⟩, hroots⟩
    rintro rfl
    exact hne (List.forall₂_nil_left_iff.mp hroots)

theorem readable_ca_iff (H : Layout (Pem.lines text) blocks) :
    Entry.ca.Readable text ↔
      (∃ block ∈ blocks, block.isCertificate = true) ∧ ∀ block ∈ blocks, block.Trusted := by
  have hroots : (∃ roots, List.Forall₂ Block.Anchors (blocks.filter Block.isCertificate) roots) ↔
      ∀ block ∈ blocks, block.isCertificate = true → ∃ root, block.Anchors root := by
    simp only [exists_forall₂_iff, List.mem_filter, and_imp]
  rw [← Bundle.exists_readRoots_iff]
  simp only [Bundle.readRoots_eq_ok_iff H]
  constructor
  · rintro ⟨roots, hsound, hne, hanchors⟩
    refine ⟨?_, fun block hblock => ⟨hsound block hblock, hroots.mp ⟨roots, hanchors⟩ block hblock⟩⟩
    obtain ⟨block, hblock⟩ := List.exists_mem_of_ne_nil _ fun hnil : blocks.filter _ = [] =>
      hne (List.forall₂_nil_left_iff.mp (hnil ▸ hanchors))
    exact ⟨block, List.mem_filter.mp hblock⟩
  · rintro ⟨⟨block, hblock, hcertificate⟩, htrusted⟩
    -- Without the block that is a certificate there could be no anchors at all.
    obtain ⟨roots, hanchors⟩ := hroots.mpr fun block hblock => (htrusted block hblock).2
    refine ⟨roots, fun block hblock => (htrusted block hblock).1, ?_, hanchors⟩
    rintro rfl
    have hnil := List.forall₂_nil_right_iff.mp hanchors
    exact List.filter_eq_nil_iff.mp hnil block hblock hcertificate

theorem Pem.SameCertificates.certificates_eq {text' : Bytes} (H : SameCertificates text text') :
    Pem.certificates text = Pem.certificates text' := by
  obtain ⟨blocks, blocks', hlayout, hlayout', hsound, hsound', hfilter⟩ := H
  have hcerts := forall₂_encodes_readBlocks hsound
  rw [hlayout.certificates_eq_ok_iff.mpr ⟨hsound, hcerts⟩,
    hlayout'.certificates_eq_ok_iff.mpr ⟨hsound', hfilter ▸ hcerts⟩]

/-! ## The error of a bundle -/

namespace Bundle

theorem malformed_blames {α : Type} {entry entry' : Entry} {result : Except String α}
    {reason : String}
    (h : malformed secret entry result = .error (.credentialMalformed secret entry'.name reason)) :
    entry' = entry := by
  obtain ⟨_, h⟩ := malformed_eq_error h
  have hname : entry'.name = entry.name := (Error.credentialMalformed.inj h).2.1
  revert hname
  cases entry <;> cases entry' <;> decide

theorem blames_ca_iff :
    (∃ reason, ofPem secret ca cert key =
      .error (.credentialMalformed secret Entry.ca.name reason)) ↔ ¬ Entry.ca.Readable ca := by
  constructor
  · rintro ⟨reason, h⟩ hreadable
    obtain ⟨roots, hroots⟩ := exists_readRoots_iff.mpr hreadable
    unfold ofPem at h
    simp only [bind_eq_error_iff] at h
    rcases h with h | ⟨_, _, h | ⟨_, _, h | ⟨_, _, h | ⟨_, _, h⟩⟩⟩⟩
    · rw [hroots] at h
      nomatch h
    · exact absurd (malformed_blames h) (by decide)
    · exact absurd (malformed_blames h) (by decide)
    · exact absurd (malformed_blames h) (by decide)
    · nomatch h
  · intro h
    exact @ofPem_eq_error_of_first secret (Entry.rec ca cert key) .ca ⟨h, nofun⟩

theorem ofPem_congr {ca' cert' : Bytes} (hca : SameCertificates ca ca')
    (hcert : SameCertificates cert cert') :
    ofPem secret ca cert key = ofPem secret ca' cert' key := by
  have hroots : readRoots ca = readRoots ca' := by
    rw [readRoots, certificates, hca.certificates_eq, ← certificates, ← readRoots]
  have hchain : certificates cert = certificates cert' := by
    rw [certificates, hcert.certificates_eq, ← certificates]
  rw [ofPem, hroots, hchain, ← ofPem]

/-! ## All or nothing -/

/-- What three texts are made into, as far as certificates are concerned. -/
structure KeepsAll (secret : String) (ca cert key : Bytes) : Prop where
  laid : (∃ bundle, ofPem secret ca cert key = .ok bundle) →
    (∃! blocks, Layout (Pem.lines ca) blocks) ∧ ∃! blocks, Layout (Pem.lines cert) blocks
  kept {bundle : Bundle} {caBlocks certBlocks : List Block} :
    Layout (Pem.lines ca) caBlocks → Layout (Pem.lines cert) certBlocks →
    ofPem secret ca cert key = .ok bundle →
    bundle.roots.length = (caBlocks.filter Block.isCertificate).length ∧
      List.Forall₂ Block.Anchors (caBlocks.filter Block.isCertificate) bundle.roots ∧
      List.Forall₂ Block.Encodes (certBlocks.filter Block.isCertificate) bundle.clientChain
  refused_unlaid : (¬ ∃ blocks, Layout (Pem.lines ca) blocks) →
    ∃ reason, ofPem secret ca cert key =
      .error (.credentialMalformed secret Entry.ca.name reason)
  refused_iff {blocks : List Block} : Layout (Pem.lines ca) blocks →
    ((∃ reason, ofPem secret ca cert key =
      .error (.credentialMalformed secret Entry.ca.name reason)) ↔
      (∀ block ∈ blocks, ¬ block.isCertificate = true) ∨ ∃ block ∈ blocks, ¬ block.Trusted)
  unaffected {ca' cert' : Bytes} : SameCertificates ca ca' → SameCertificates cert cert' →
    ofPem secret ca cert key = ofPem secret ca' cert' key

/-- **All or nothing.** A bundle has one anchor for each certificate of the first text and the
certificates of the second, in their order. The first text is blamed, and there is no bundle,
exactly where it has no layout or no certificate, or where one of its blocks, at any place, is not
`Trusted`. Blocks with other labels and the lines between blocks have no part in it. -/
theorem keepsAll (secret : String) (ca cert key : Bytes) : KeepsAll secret ca cert key where
  laid := by
    rintro ⟨bundle, h⟩
    have H := ofPem_eq_ok_iff.mp h
    obtain ⟨certs, hcerts, -⟩ := exists_readRoots_iff.mp ⟨_, H.roots⟩
    exact ⟨existsUnique_layout hcerts, existsUnique_layout (certificates_eq_ok_iff.mp H.chain).1⟩
  kept hca hcert h := by
    have H := ofPem_eq_ok_iff.mp h
    have hanchors := ((readRoots_eq_ok_iff hca).mp H.roots).2.2
    have hchain := (certificates_eq_ok_iff.mp H.chain).1
    exact ⟨hanchors.length_eq.symm, hanchors, (hcert.certificates_eq_ok_iff.mp hchain).2⟩
  refused_unlaid h := by
    refine blames_ca_iff.mpr ?_
    rintro ⟨certs, hcerts, -⟩
    exact h (existsUnique_layout hcerts).exists
  refused_iff H := by
    rw [blames_ca_iff, readable_ca_iff H, not_and_or]
    push Not
    rfl
  unaffected := ofPem_congr

/-- The note between two certificates, and the section that nobody asks for, are not looked at. -/
example : (readRoots ("-----BEGIN CERTIFICATE-----\nMBQwDQIBATAAMAAwADAAMAAwAAMBAA==\n" ++
    "-----END CERTIFICATE-----\nsee below\n-----BEGIN NOTE-----\n?\n-----END NOTE-----\n" ++
    "-----BEGIN CERTIFICATE-----\nMBQwDQIBATAAMAAwADAAMAAwAAMBAA==\n" ++
    "-----END CERTIFICATE-----\n").toUTF8.toList).toOption.map List.length = some 2 := by
  decide +kernel

end Bundle

end IndexWatch.Credentials
