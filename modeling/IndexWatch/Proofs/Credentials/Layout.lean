import IndexWatch.Credentials.Pem
import IndexWatch.Proofs.Except
import Mathlib.Data.List.Forall2

/-! # How a text of sections is laid out

`Layout` tells the sections of a text apart from the lines between them, without decoding anything.
A text has at most one layout (`Layout.unique`), and it has one where it is read without a fault.
Its certificates are read where every block of the layout is sound, and are then what the blocks
with that label encode, in order: `Layout.certificates_eq_ok_iff`. -/

namespace IndexWatch.Credentials.Pem

/-- A section as it stands in a text: its label, and its lines between the first and the last. -/
structure Block where
  label : List UInt8
  text : List (List UInt8)

namespace Block

def contents (block : Block) : Except Fault (List UInt8) := decodeContents block.text.flatten

def isCertificate (block : Block) : Bool := block.label == Label.certificate.text.toUTF8.toList

/-- The contents can be decoded, or nobody asks for sections with this label. -/
def Sound (block : Block) : Prop :=
  (Label.ofBytes? block.label).isSome → ∃ contents, block.contents = .ok contents

def Encodes (block : Block) (contents : List UInt8) : Prop := block.contents = .ok contents

end Block

/-- A section that is open, with the lines that it has so far, ends as a block before `rest`. Where
another section begins in it, that one goes on with its lines. -/
inductive Closes : List UInt8 → List (List UInt8) → List (List UInt8) → Block →
    List (List UInt8) → Prop
  | ends {label line : List UInt8} {text rest : List (List UInt8)} :
    ¬ beginMark <+: line → endMark label <+: line →
    Closes label text (line :: rest) ⟨label, text⟩ rest
  | goesOn {label line : List UInt8} {text lines rest : List (List UInt8)} {block : Block} :
    ¬ beginMark <+: line → ¬ endMark label <+: line →
    Closes label (text ++ [line]) lines block rest →
    Closes label text (line :: lines) block rest
  | beginsAgain {label label' line : List UInt8} {text lines rest : List (List UInt8)}
      {block : Block} :
    beginMark <+: line → readStart line = .ok label' → Closes label' text lines block rest →
    Closes label text (line :: lines) block rest

/-- Some lines hold these blocks, one after the other, and other lines between them. -/
inductive Layout : List (List UInt8) → List Block → Prop
  | done : Layout [] []
  | between {line : List UInt8} {lines : List (List UInt8)} {blocks : List Block} :
    ¬ beginMark <+: line → Layout lines blocks → Layout (line :: lines) blocks
  | block {label line : List UInt8} {lines rest : List (List UInt8)} {block : Block}
      {blocks : List Block} :
    beginMark <+: line → readStart line = .ok label → Closes label [] lines block rest →
    Layout rest blocks → Layout (line :: lines) (block :: blocks)

/-- The sections of some blocks, up to the first that cannot be decoded. Blocks with a label that
nobody asks for are skipped. -/
def readBlocks : List Block → List Section × Option Fault
  | [] => ([], none)
  | block :: blocks =>
    match Label.ofBytes? block.label with
    | none => readBlocks blocks
    | some label =>
      match block.contents with
      | .error fault => ([], some fault)
      | .ok contents =>
        let (sections, fault) := readBlocks blocks
        (⟨label, contents⟩ :: sections, fault)

section
variable {label line : List UInt8} {text lines rest : List (List UInt8)} {block : Block}
  {blocks : List Block} {current : Option Open} {o : Open}

/-! ## One line -/

theorem sectionsFrom_of_begins (hbegins : beginMark <+: line)
    (hstart : readStart line = .ok label) :
    sectionsFrom current (line :: lines) =
      sectionsFrom (some ⟨label, (current.map Open.text).getD []⟩) lines := by
  cases current <;> rw [sectionsFrom, if_pos (List.isPrefixOf_iff_prefix.mpr hbegins), hstart]

theorem sectionsFrom_of_illegal {fault : Fault} (hbegins : beginMark <+: line)
    (hstart : readStart line = .error fault) :
    sectionsFrom current (line :: lines) = ([], some fault) := by
  cases current <;> rw [sectionsFrom, if_pos (List.isPrefixOf_iff_prefix.mpr hbegins), hstart]

theorem sectionsFrom_of_between (hbegins : ¬ beginMark <+: line) :
    sectionsFrom none (line :: lines) = sectionsFrom none lines := by
  rw [sectionsFrom, if_neg (mt List.isPrefixOf_iff_prefix.mp hbegins)]

theorem sectionsFrom_of_goesOn (hbegins : ¬ beginMark <+: line)
    (hends : ¬ endMark o.label <+: line) :
    sectionsFrom (some o) (line :: lines) =
      sectionsFrom (some ⟨o.label, line :: o.text⟩) lines := by
  rw [sectionsFrom, if_neg (mt List.isPrefixOf_iff_prefix.mp hbegins)]
  exact if_neg (mt List.isPrefixOf_iff_prefix.mp hends)

theorem sectionsFrom_of_ends (hbegins : ¬ beginMark <+: line) (hends : endMark o.label <+: line) :
    sectionsFrom (some o) (line :: lines) =
      match Label.ofBytes? o.label with
      | none => sectionsFrom none lines
      | some label =>
        match decodeContents o.text.reverse.flatten with
        | .error fault => ([], some fault)
        | .ok contents =>
          let (sections, fault) := sectionsFrom none lines
          (⟨label, contents⟩ :: sections, fault) := by
  rw [sectionsFrom, if_neg (mt List.isPrefixOf_iff_prefix.mp hbegins)]
  exact if_pos (List.isPrefixOf_iff_prefix.mpr hends)

/-! ## Sections and blocks -/

theorem Closes.sectionsFrom (H : Closes label text lines block rest)
    (hrest : sectionsFrom none rest = readBlocks blocks) :
    sectionsFrom (some ⟨label, text.reverse⟩) lines = readBlocks (block :: blocks) := by
  induction H with
  | ends hbegins hends =>
    rw [sectionsFrom_of_ends hbegins hends, readBlocks, Block.contents, hrest, List.reverse_reverse]
  | goesOn hbegins hends _ ih =>
    -- An open section keeps its lines backwards.
    rw [sectionsFrom_of_goesOn hbegins hends, ← ih hrest, List.reverse_append]
    rfl
  | beginsAgain hbegins hstart _ ih =>
    exact (sectionsFrom_of_begins hbegins hstart).trans (ih hrest)

/-- What is read are the sections of the blocks. -/
theorem Layout.sectionsFrom (H : Layout lines blocks) :
    sectionsFrom none lines = readBlocks blocks := by
  induction H with
  | done => rfl
  | between hbegins _ ih => rw [sectionsFrom_of_between hbegins, ih]
  | block hbegins hstart hcloses _ ih =>
    exact (sectionsFrom_of_begins hbegins hstart).trans (hcloses.sectionsFrom ih)

/-- The lines hold some blocks, after those of a section that is open. -/
def LaidOut : Option Open → List (List UInt8) → Prop
  | none, lines => ∃ blocks, Layout lines blocks
  | some o, lines => ∃ block rest blocks,
    Closes o.label o.text.reverse lines block rest ∧ Layout rest blocks

theorem laidOut_of_sectionsFrom (h : (sectionsFrom current lines).2 = none) :
    LaidOut current lines := by
  -- The section that is open changes from line to line, and with it what is laid out.
  induction lines generalizing current with
  | nil =>
    cases current with
    | none => exact ⟨[], .done⟩
    | some o => exact absurd h (Option.some_ne_none _)
  | cons line lines ih =>
    by_cases hbegins : beginMark <+: line
    · cases hstart : readStart line with
      | error fault =>
        rw [sectionsFrom_of_illegal hbegins hstart] at h
        contradiction
      | ok label =>
        rw [sectionsFrom_of_begins hbegins hstart] at h
        obtain ⟨block, rest, blocks, hcloses, hlayout⟩ := ih h
        cases current with
        | none => exact ⟨_, .block hbegins hstart hcloses hlayout⟩
        | some o => exact ⟨block, rest, blocks, .beginsAgain hbegins hstart hcloses, hlayout⟩
    · cases current with
      | none =>
        rw [sectionsFrom_of_between hbegins] at h
        obtain ⟨blocks, hlayout⟩ := ih h
        exact ⟨blocks, .between hbegins hlayout⟩
      | some o =>
        by_cases hends : endMark o.label <+: line
        · have hrest : (sectionsFrom none lines).2 = none := by
            rw [sectionsFrom_of_ends hbegins hends] at h
            split at h
            · exact h
            · split at h
              · contradiction
              · exact h
          obtain ⟨blocks, hlayout⟩ := ih hrest
          exact ⟨_, lines, blocks, .ends hbegins hends, hlayout⟩
        · rw [sectionsFrom_of_goesOn hbegins hends] at h
          obtain ⟨block, rest, blocks, hcloses, hlayout⟩ := ih h
          refine ⟨block, rest, blocks, .goesOn hbegins hends ?_, hlayout⟩
          rwa [List.reverse_cons] at hcloses

/-! ## One layout -/

theorem Closes.unique {block' : Block} {rest' : List (List UInt8)}
    (H : Closes label text lines block rest) (H' : Closes label text lines block' rest') :
    block = block' ∧ rest = rest' := by
  induction H with
  | ends hbegins hends =>
    cases H' with
    | ends => exact ⟨rfl, rfl⟩
    | goesOn _ hends' => exact absurd hends hends'
    | beginsAgain hbegins' => exact absurd hbegins' hbegins
  | goesOn hbegins hends _ ih =>
    cases H' with
    | ends _ hends' => exact absurd hends' hends
    | goesOn _ _ hcloses' => exact ih hcloses'
    | beginsAgain hbegins' => exact absurd hbegins' hbegins
  | beginsAgain hbegins hstart _ ih =>
    cases H' with
    | ends hbegins' => exact absurd hbegins hbegins'
    | goesOn hbegins' => exact absurd hbegins hbegins'
    | beginsAgain _ hstart' hcloses' =>
      cases hstart.symm.trans hstart'
      exact ih hcloses'

theorem Layout.unique {blocks' : List Block} (H : Layout lines blocks) (H' : Layout lines blocks') :
    blocks = blocks' := by
  induction H generalizing blocks' with
  | done =>
    cases H'
    rfl
  | between hbegins _ ih =>
    cases H' with
    | between _ hlayout' => exact ih hlayout'
    | block hbegins' => exact absurd hbegins' hbegins
  | block hbegins hstart hcloses _ ih =>
    cases H' with
    | between hbegins' => exact absurd hbegins hbegins'
    | block _ hstart' hcloses' hlayout' =>
      cases hstart.symm.trans hstart'
      obtain ⟨rfl, rfl⟩ := hcloses.unique hcloses'
      rw [ih hlayout']

/-! ## The certificates of a layout -/

theorem Label.ofBytes?_eq_certificate_iff {bytes : List UInt8} :
    ofBytes? bytes = some certificate ↔ bytes = certificate.text.toUTF8.toList := by
  constructor
  · intro h
    exact (eq_of_beq (List.find?_some h :)).symm
  · rintro rfl
    decide +kernel

/-- Blocks are read without a fault where all of them are sound. -/
theorem fault_readBlocks_eq_none_iff :
    (readBlocks blocks).2 = none ↔ ∀ block ∈ blocks, block.Sound := by
  induction blocks with
  | nil => simp [readBlocks]
  | cons block blocks ih =>
    rw [readBlocks, List.forall_mem_cons, ← ih, Block.Sound]
    cases Label.ofBytes? block.label with
    | none => simp
    | some label => cases block.contents <;> simp

theorem forall₂_encodes_readBlocks (h : ∀ block ∈ blocks, block.Sound) :
    List.Forall₂ Block.Encodes (blocks.filter Block.isCertificate)
      (((readBlocks blocks).1.filter (·.label == .certificate)).map Section.contents) := by
  induction blocks with
  | nil => exact .nil
  | cons block blocks ih =>
    obtain ⟨hsound, hblocks⟩ := List.forall_mem_cons.mp h
    have hcertificate : block.isCertificate = true ↔
        Label.ofBytes? block.label = some .certificate :=
      beq_iff_eq.trans Label.ofBytes?_eq_certificate_iff.symm
    rw [readBlocks]
    cases hlabel : Label.ofBytes? block.label with
    | none =>
      rw [List.filter_cons_of_neg (by simp [hcertificate, hlabel])]
      exact ih hblocks
    | some label =>
      obtain ⟨contents, hcontents⟩ := hsound (by rw [hlabel]; rfl)
      rw [hcontents]
      by_cases hcert : label = .certificate
      · subst hcert
        rw [List.filter_cons_of_pos (by simp [hcertificate, hlabel])]
        exact .cons hcontents (ih hblocks)
      · rw [List.filter_cons_of_neg (by simp [hcertificate, hlabel, hcert])]
        simpa [hcert] using ih hblocks

variable {bytes : List UInt8} {certs : List (List UInt8)}

/-- The certificates of a text are what the blocks with that label encode, in order, and all its
blocks must be sound. -/
theorem Layout.certificates_eq_ok_iff (H : Layout (Pem.lines bytes) blocks) :
    certificates bytes = .ok certs ↔ (∀ block ∈ blocks, block.Sound) ∧
      List.Forall₂ Block.Encodes (blocks.filter Block.isCertificate) certs := by
  rw [← fault_readBlocks_eq_none_iff, certificates, sections, H.sectionsFrom]
  cases hread : readBlocks blocks with
  | mk found fault =>
    cases fault with
    | some fault => simp
    | none =>
      have hencodes := forall₂_encodes_readBlocks
        (fault_readBlocks_eq_none_iff.mp (congrArg Prod.snd hread))
      rw [hread] at hencodes
      constructor
      · intro h
        cases h
        exact ⟨rfl, hencodes⟩
      · rintro ⟨-, hcerts⟩
        refine congrArg Except.ok (List.right_unique_forall₂' ?_ hencodes hcerts)
        intro block contents contents' h h'
        exact Except.ok.inj (h.symm.trans h')

/-- A text without a layout has no certificates. -/
theorem existsUnique_layout (h : certificates bytes = .ok certs) :
    ∃! blocks, Layout (Pem.lines bytes) blocks := by
  have hfault : (sectionsFrom none (Pem.lines bytes)).2 = none := by
    unfold certificates sections at h
    split at h
    · contradiction
    · next hsections => exact congrArg Prod.snd hsections
  obtain ⟨blocks, H⟩ := laidOut_of_sectionsFrom hfault
  exact ⟨blocks, H, fun _ H' => H'.unique H⟩

end

end IndexWatch.Credentials.Pem
