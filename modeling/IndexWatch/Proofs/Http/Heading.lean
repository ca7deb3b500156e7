import IndexWatch.Proofs.Http.Numeral

/-! # Heads as a server may write them

A `Heading` is a status line with any reason, and under it any fields, in any case and spacing. The
reader follows it line by line and finds the status and the fields, `Heading.readHead_bytes`; it
skips the heads that only announce the answer, `readFinalHead_bytes`. Where what arrives is `Cut`
off within the heads, the end of a line is missing, `readFinalHead_of_cut`. -/

namespace IndexWatch.Http

/-! ## Texts that are cut off -/

/-- A beginning that is not the whole. -/
def Cut (part whole : Bytes) : Prop := part <+: whole ∧ part ≠ whole

section
variable {part xs ys line : Bytes}

theorem Cut.length_lt (H : Cut part xs) : part.length < xs.length :=
  Nat.lt_of_le_of_ne H.1.length_le fun h => H.2 (H.1.eq_of_length h)

theorem cut_append_cases (H : Cut part (xs ++ ys)) :
    Cut part xs ∨ ∃ part', part = xs ++ part' ∧ Cut part' ys := by
  rcases List.prefix_or_prefix_of_prefix H.1 (List.prefix_append xs ys) with h | ⟨part', rfl⟩
  · by_cases heq : part = xs
    · subst heq
      refine .inr ⟨[], (List.append_nil part).symm, List.nil_prefix, fun hys => H.2 ?_⟩
      rw [← hys, List.append_nil]
    · exact .inl ⟨h, heq⟩
  · refine .inr ⟨part', rfl, (List.prefix_append_right_inj xs).mp H.1, fun heq => H.2 ?_⟩
    rw [heq]

/-! ## Lines -/

/-- A line holds neither of the bytes that end lines. -/
def Unbroken (line : Bytes) : Prop := ∀ b ∈ line, b ≠ carriageReturn ∧ b ≠ lineFeed

theorem unbroken_of_isReasonByte (h : ∀ b ∈ line, isReasonByte b = true) : Unbroken line := by
  have hends : isReasonByte carriageReturn = false ∧ isReasonByte lineFeed = false := by decide
  intro b hb
  constructor <;> rintro rfl
  · exact absurd (h _ hb) (by simp [hends.1])
  · exact absurd (h _ hb) (by simp [hends.2])

theorem splitLine?_append (H : Unbroken line) (rest : Bytes) :
    splitLine? (line ++ (lineEnd ++ rest)) = some (line, rest) := by
  induction line with
  | nil => rfl
  | cons b line ih =>
    have hrest := ih fun c hc => H c (List.mem_cons_of_mem b hc)
    obtain ⟨hreturn, hfeed⟩ := H b List.mem_cons_self
    simp [splitLine?, hrest, hreturn, hfeed]

theorem splitLine?_eq_none (h : lineFeed ∉ part) : splitLine? part = none := by
  induction part with
  | nil => rfl
  | cons b part ih =>
    have hb : b ≠ lineFeed := fun heq => h (heq ▸ List.mem_cons_self)
    rw [splitLine?, if_neg hb, ih fun hmem => h (List.mem_cons_of_mem b hmem)]

theorem Cut.not_mem (H : Cut part (line ++ lineEnd)) (hline : Unbroken line) :
    lineFeed ∉ part := by
  have hbegins : part <+: line ++ [carriageReturn] := by
    have hwhole : line ++ lineEnd = (line ++ [carriageReturn]) ++ [lineFeed] := by simp [lineEnd]
    have hpart := H.1
    rw [hwhole, List.prefix_concat_iff] at hpart
    exact hpart.resolve_left (hwhole ▸ H.2)
  intro hmem
  rcases List.mem_append.mp (hbegins.mem hmem) with h | h
  · exact (hline _ h).2 rfl
  · exact absurd (List.mem_singleton.mp h) (by decide)

theorem Cut.not_mem_lineEnd (H : Cut part lineEnd) : lineFeed ∉ part := by
  have hnone : Unbroken [] := nofun
  rw [← List.nil_append lineEnd] at H
  exact H.not_mem hnone

end

/-! ## Fields -/

/-- A field as it is written: a name, a colon and a text. -/
structure Field where
  name : Bytes
  text : Bytes
  name_ne_nil : name ≠ []
  name_clean : ∀ b ∈ name, isNameByte b = true
  text_clean : ∀ b ∈ text, isReasonByte b = true

namespace Field

def line (field : Field) : Bytes := field.name ++ 0x3A :: field.text

/-- The name in lower case, and the text without the blanks around it. -/
def pair (field : Field) : Bytes × Bytes := (field.name.map lowerByte, trimBlanks field.text)

theorem isNameByte_spec : ∀ n < 256, isNameByte (.ofNat n) = true →
    isReasonByte (.ofNat n) = true ∧ UInt8.ofNat n ≠ 0x3A := by
  decide +kernel

variable (field : Field)

theorem spec_of_mem_name {b : UInt8} (hb : b ∈ field.name) :
    isReasonByte b = true ∧ b ≠ 0x3A := by
  have h := isNameByte_spec b.toNat b.toNat_lt
  rw [UInt8.ofNat_toNat] at h
  exact h (field.name_clean b hb)

theorem unbroken_line : Unbroken field.line := by
  refine unbroken_of_isReasonByte fun b hb => ?_
  rcases List.mem_append.mp hb with hname | htext
  · exact (field.spec_of_mem_name hname).1
  · rcases List.mem_cons.mp htext with rfl | htext
    · decide
    · exact field.text_clean b htext

theorem line_ne_nil : field.line ≠ [] := List.append_ne_nil_of_left_ne_nil field.name_ne_nil _

theorem readField_line : readField field.line = .ok field.pair := by
  have hname : field.line.takeWhile (· != 0x3A) = field.name := by
    rw [line, List.takeWhile_append_of_pos fun b hb => by simp [(field.spec_of_mem_name hb).2]]
    simp
  have hlength : field.name.length ≠ field.line.length := by simp [line]
  have htext : field.line.drop (field.name.length + 1) = field.text := by
    rw [line, ← List.drop_drop, List.drop_left, List.drop_succ_cons, List.drop_zero]
  have hempty : field.name.isEmpty = false := List.isEmpty_eq_false_iff.mpr field.name_ne_nil
  have hclean : field.name.all isNameByte = true ∧ field.text.all isReasonByte = true :=
    ⟨List.all_eq_true.mpr field.name_clean, List.all_eq_true.mpr field.text_clean⟩
  simp only [readField, hname, htext, hempty, hlength, hclean, pair]
  rfl

end Field

/-- The lines of some fields, each with its end. -/
def fieldLines : List Field → Bytes
  | [] => lineEnd
  | field :: fields => field.line ++ (lineEnd ++ fieldLines fields)

theorem readFields_field (fuel : Nat) (field : Field) (rest : Bytes) :
    readFields (fuel + 1) (field.line ++ (lineEnd ++ rest)) =
      (readFields fuel rest).map fun (fields, rest) => (field.pair :: fields, rest) := by
  have hread := field.readField_line
  rw [readFields, splitLine?_append field.unbroken_line]
  cases hline : field.line with
  | nil => exact absurd hline field.line_ne_nil
  | cons b line =>
    rw [hline] at hread
    simp only [hread, bind, Except.bind]
    cases readFields fuel rest <;> rfl

theorem readFields_fieldLines {fuel : Nat} {fields : List Field} (h : fields.length < fuel)
    (rest : Bytes) :
    readFields fuel (fieldLines fields ++ rest) = .ok (fields.map Field.pair, rest) := by
  induction fields generalizing fuel with
  | nil =>
    obtain ⟨fuel, rfl⟩ := Nat.exists_eq_succ_of_ne_zero (Nat.ne_zero_of_lt h)
    rfl
  | cons field fields ih =>
    obtain ⟨fuel, rfl⟩ := Nat.exists_eq_succ_of_ne_zero (Nat.ne_zero_of_lt h)
    rw [fieldLines, List.append_assoc, List.append_assoc, readFields_field,
      ih (Nat.lt_of_succ_lt_succ h)]
    rfl

theorem readFields_eq_closedEarly {part : Bytes} (h : lineFeed ∉ part) (fuel : Nat) :
    readFields fuel part = .error .closedEarly := by
  cases fuel with
  | zero => rfl
  | succ fuel => rw [readFields, splitLine?_eq_none h]

theorem readFields_of_cut {fields : List Field} {part : Bytes} (H : Cut part (fieldLines fields))
    (fuel : Nat) : readFields fuel part = .error .closedEarly := by
  induction fields generalizing fuel part with
  | nil => exact readFields_eq_closedEarly H.not_mem_lineEnd fuel
  | cons field fields ih =>
    rw [fieldLines, ← List.append_assoc] at H
    rcases cut_append_cases H with hline | ⟨rest, rfl, hrest⟩
    · exact readFields_eq_closedEarly (hline.not_mem field.unbroken_line) fuel
    · cases fuel with
      | zero => rfl
      | succ fuel =>
        rw [List.append_assoc, readFields_field, ih hrest]
        rfl

/-! ## Heads -/

/-- A status line and the fields under it. -/
structure Heading where
  status : Nat
  status_ge : 100 ≤ status
  status_lt : status < 1000
  reason : Bytes
  reason_clean : ∀ b ∈ reason, isReasonByte b = true
  fields : List Field

namespace Heading

variable (heading : Heading)

/-- The status line behind the version. -/
def verdict : Bytes := numeral 10 heading.status ++ 0x20 :: heading.reason

def bytes : Bytes :=
  ascii "HTTP/1.1 " ++ (heading.verdict ++ lineEnd ++ fieldLines heading.fields)

/-- What is read of it. -/
def head : Head := ⟨heading.status, heading.fields.map Field.pair⟩

theorem spaced_reason_clean : ∀ b ∈ 0x20 :: heading.reason, isReasonByte b = true :=
  List.forall_mem_cons.mpr ⟨by decide, heading.reason_clean⟩

theorem unbroken_reason : Unbroken (0x20 :: heading.reason) :=
  unbroken_of_isReasonByte heading.spaced_reason_clean

theorem unbroken_verdict : Unbroken heading.verdict := by
  have hdigit : ∀ d < 10, digitByte d ≠ carriageReturn ∧ digitByte d ≠ lineFeed := by decide
  intro b hb
  rcases List.mem_append.mp hb with hcode | hreason
  · exact forall_mem_numeral (p := fun b => b ≠ carriageReturn ∧ b ≠ lineFeed) (by decide)
      (by decide) hdigit heading.status b hcode
  · exact heading.unbroken_reason b hreason

end Heading

section
variable {mark part rest : Bytes} (fault : ResponseFault)

theorem expect_append : expect mark fault (mark ++ rest) = .ok rest := by
  have hmark : mark.isPrefixOf (mark ++ rest) = true :=
    List.isPrefixOf_iff_prefix.mpr (List.prefix_append mark rest)
  rw [expect, if_pos hmark, List.drop_left]

theorem expect_of_cut (H : Cut part mark) : expect mark fault part = .error .closedEarly := by
  have hnot : ¬ mark.isPrefixOf part = true := fun h =>
    Nat.not_le.mpr H.length_lt (List.isPrefixOf_iff_prefix.mp h).length_le
  rw [expect, if_neg hnot, if_pos (List.isPrefixOf_iff_prefix.mpr H.1)]

end

/-! ### The status line -/

theorem ascii_version : ascii "HTTP/1.1 " = ascii "HTTP/1." ++ [0x31, 0x20] := by decide +kernel

theorem readVersion_append (rest : Bytes) : readVersion (ascii "HTTP/1.1 " ++ rest) = .ok rest := by
  rw [readVersion, ascii_version, List.append_assoc, expect_append]
  rfl

theorem readVersion_of_cut {part : Bytes} (H : Cut part (ascii "HTTP/1.1 ")) :
    readVersion part = .error .closedEarly := by
  rw [ascii_version] at H
  rcases cut_append_cases H with hmark | ⟨rest, rfl, hrest⟩
  · rw [readVersion, expect_of_cut _ hmark]
    rfl
  · rw [readVersion, expect_append]
    rcases List.prefix_cons_iff.mp hrest.1 with rfl | ⟨minor, rfl, hminor⟩
    · rfl
    · rcases List.prefix_cons_iff.mp hminor with rfl | ⟨rest, rfl, hnone⟩
      · rfl
      · rw [List.prefix_nil.mp hnone] at hrest
        exact absurd rfl hrest.2

theorem readStatus_verdict (heading : Heading) (rest : Bytes) :
    readStatus (ascii "HTTP/1.1 " ++ (heading.verdict ++ (lineEnd ++ rest))) =
      .ok (heading.status, rest) := by
  have hlength := length_numeral_of_status heading.status_ge heading.status_lt
  rw [readStatus, readVersion_append, Heading.verdict, List.append_assoc]
  simp only [bind, Except.bind, List.take_left' hlength, List.drop_left' hlength,
    all_isDigitByte_numeral, splitLine?_append heading.unbroken_reason, decimalOf_numeral,
    List.all_eq_true.mpr heading.spaced_reason_clean, Nat.not_lt.mpr heading.status_ge]
  rfl

theorem readStatus_of_cut {heading : Heading} {part : Bytes}
    (H : Cut part (heading.verdict ++ lineEnd)) :
    readStatus (ascii "HTTP/1.1 " ++ part) = .error .closedEarly := by
  have hlength := length_numeral_of_status heading.status_ge heading.status_lt
  have hfeed : lineFeed ∉ part.drop 3 := fun hmem =>
    H.not_mem heading.unbroken_verdict (List.mem_of_mem_drop hmem)
  have hcode : (part.take 3).all isDigitByte = true := by
    have hbegins : part.take 3 <+: numeral 10 heading.status := by
      refine List.prefix_of_prefix_length_le ((List.take_prefix 3 part).trans H.1)
        ((List.prefix_append ..).trans (List.prefix_append ..)) ?_
      rw [hlength]
      exact List.length_take_le 3 part
    exact List.all_eq_true.mpr fun b hb =>
      List.all_eq_true.mp (all_isDigitByte_numeral _) b (hbegins.mem hb)
  rw [readStatus, readVersion_append]
  simp only [bind, Except.bind, hcode, splitLine?_eq_none hfeed]
  rfl

/-! ### One head and several -/

theorem length_le_fieldLines (fields : List Field) :
    fields.length ≤ (fieldLines fields).length := by
  induction fields with
  | nil => exact Nat.zero_le _
  | cons field fields ih =>
    have hline := List.length_pos_iff.mpr field.line_ne_nil
    simp only [fieldLines, List.length_append, List.length_cons]
    omega

namespace Heading

variable (heading : Heading)

theorem bytes_append (rest : Bytes) :
    heading.bytes ++ rest =
      ascii "HTTP/1.1 " ++
        (heading.verdict ++ (lineEnd ++ (fieldLines heading.fields ++ rest))) := by
  simp only [bytes, List.append_assoc]

/-- A head begins with a letter, so there are no empty lines to be skipped. -/
theorem dropWhile_of_prefix {part rest : Bytes} (h : part <+: heading.bytes ++ rest) :
    part.dropWhile (fun b => b == carriageReturn || b == lineFeed) = part := by
  have hletters : ascii "HTTP/1.1 " = 0x48 :: ascii "TTP/1.1 " := by decide +kernel
  rw [bytes_append, hletters] at h
  rcases List.prefix_cons_iff.mp h with rfl | ⟨part, rfl, _⟩ <;> rfl

theorem readHead_bytes (rest : Bytes) :
    readHead (heading.bytes ++ rest) = .ok (heading.head, rest) := by
  have hfuel : heading.fields.length < (fieldLines heading.fields ++ rest).length + 1 := by
    have hle := length_le_fieldLines heading.fields
    rw [List.length_append]
    omega
  rw [readHead, heading.dropWhile_of_prefix (List.prefix_refl _), bytes_append, readStatus_verdict]
  simp only [bind, Except.bind, readFields_fieldLines hfuel]
  rfl

theorem readHead_of_cut {part : Bytes} (H : Cut part heading.bytes) :
    readHead part = .error .closedEarly := by
  have hbegins : part <+: heading.bytes ++ [] := (List.append_nil _).symm ▸ H.1
  rw [readHead, heading.dropWhile_of_prefix hbegins]
  rcases cut_append_cases H with hversion | ⟨part, rfl, hlines⟩
  · rw [readStatus, readVersion_of_cut hversion]
    rfl
  rcases cut_append_cases hlines with hverdict | ⟨part, rfl, hfields⟩
  · rw [readStatus_of_cut hverdict]
    rfl
  · rw [List.append_assoc, readStatus_verdict]
    simp only [bind, Except.bind, readFields_of_cut hfields]

end Heading

section
variable {interim : List Heading} (hinterim : ∀ heading ∈ interim, isInterim heading.status = true)
  {heading : Heading}
include hinterim

theorem readFinalHead_bytes (hfinal : isInterim heading.status = false) {fuel : Nat}
    (hfuel : interim.length < fuel) (rest : Bytes) :
    readFinalHead fuel (interim.flatMap Heading.bytes ++ (heading.bytes ++ rest)) =
      .ok (heading.head, rest) := by
  induction interim generalizing fuel with
  | nil =>
    obtain ⟨fuel, rfl⟩ := Nat.exists_eq_succ_of_ne_zero (Nat.ne_zero_of_lt hfuel)
    rw [readFinalHead, List.flatMap_nil, List.nil_append, heading.readHead_bytes]
    simp only [bind, Except.bind, Heading.head, hfinal]
    rfl
  | cons first interim ih =>
    obtain ⟨fuel, rfl⟩ := Nat.exists_eq_succ_of_ne_zero (Nat.ne_zero_of_lt hfuel)
    obtain ⟨hfirst, hinterim⟩ := List.forall_mem_cons.mp hinterim
    rw [readFinalHead, List.flatMap_cons, List.append_assoc, first.readHead_bytes]
    simp only [bind, Except.bind, Heading.head, hfirst, if_true]
    exact ih hinterim (Nat.lt_of_succ_lt_succ hfuel)

theorem readFinalHead_of_cut {part : Bytes}
    (H : Cut part (interim.flatMap Heading.bytes ++ heading.bytes)) (fuel : Nat) :
    readFinalHead fuel part = .error .closedEarly := by
  induction interim generalizing fuel part with
  | nil =>
    cases fuel with
    | zero => rfl
    | succ fuel =>
      rw [readFinalHead, heading.readHead_of_cut H]
      rfl
  | cons first interim ih =>
    obtain ⟨hfirst, hinterim⟩ := List.forall_mem_cons.mp hinterim
    cases fuel with
    | zero => rfl
    | succ fuel =>
      rw [List.flatMap_cons, List.append_assoc] at H
      rcases cut_append_cases H with hcut | ⟨part, rfl, hcut⟩
      · rw [readFinalHead, first.readHead_of_cut hcut]
        rfl
      · rw [readFinalHead, first.readHead_bytes]
        simp only [bind, Except.bind, Heading.head, hfirst, if_true]
        exact ih hinterim hcut fuel

end

end IndexWatch.Http
