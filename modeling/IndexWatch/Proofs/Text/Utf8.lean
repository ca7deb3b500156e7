import IndexWatch.Text.Utf8

/-! # Decoding bytes that may be no text

The decoder keeps every character that is written whole and puts replacements for the rest. Its two
sides are `decodeFrom_flatMap_encode`, by which what is written is decoded, and `reads_decodeFrom`,
by which every character that is decoded is written there, or stands for a fault. A byte that begins
a character never continues another, so what comes before a character does not change how it is
decoded, `exists_decodeFrom_append`. So by `infix_decodeFrom_iff` a text without replacements occurs
in what is decoded exactly where its bytes occur. -/

namespace IndexWatch.Text.Utf8

/-! ## The bytes of a text -/

theorem toList_loop (bytes : ByteArray) (i : Nat) (done : List UInt8) :
    ByteArray.toList.loop bytes i done = done.reverse ++ bytes.data.toList.drop i := by
  fun_induction ByteArray.toList.loop bytes i done with
  | case1 i done h ih =>
    have hi : i < bytes.data.toList.length := by simpa using h
    rw [ih, List.drop_eq_getElem_cons hi]
    simp [ByteArray.get!, h]
  | case2 i done h =>
    have hi : bytes.data.toList.length ≤ i := by simpa using Nat.le_of_not_lt h
    rw [List.drop_eq_nil_of_le hi, List.append_nil]

/-- The bytes of a text are those of its characters, one after the other. -/
theorem toList_toUTF8 (s : String) :
    s.toUTF8.toList = s.toList.flatMap String.utf8EncodeChar := by
  rw [ByteArray.toList, toList_loop, String.toUTF8_eq_toByteArray, ← String.utf8Encode_toList,
    List.utf8Encode, List.toList_data_toByteArray]
  rfl

section
variable {v : Nat}

theorem val_ofNat (h : v.isValidChar) : (Char.ofNat v).val.toNat = v := by
  rw [Char.ofNat, dif_pos h]
  rfl

theorem encode_one (h : v < 0x80) : String.utf8EncodeChar (Char.ofNat v) = [.ofNat v] := by
  have hvalid : v.isValidChar := .inl (by omega)
  simp only [String.utf8EncodeChar, val_ofNat hvalid]
  rw [if_pos (by omega)]

theorem encode_two (hlow : 0x80 ≤ v) (hhigh : v < 0x800) :
    String.utf8EncodeChar (Char.ofNat v) = [.ofNat (v / 64 + 0xC0), .ofNat (v % 64 + 0x80)] := by
  have hvalid : v.isValidChar := .inl (by omega)
  have hlead : v / 64 % 0x20 = v / 64 := Nat.mod_eq_of_lt (by omega)
  simp only [String.utf8EncodeChar, val_ofNat hvalid, hlead]
  rw [if_neg (by omega), if_pos (by omega)]

theorem encode_three (hlow : 0x800 ≤ v) (hhigh : v < 0x10000) (hvalid : v.isValidChar) :
    String.utf8EncodeChar (Char.ofNat v) =
      [.ofNat (v / 4096 + 0xE0), .ofNat (v / 64 % 64 + 0x80), .ofNat (v % 64 + 0x80)] := by
  have hlead : v / 4096 % 0x10 = v / 4096 := Nat.mod_eq_of_lt (by omega)
  simp only [String.utf8EncodeChar, val_ofNat hvalid, hlead]
  rw [if_neg (by omega), if_neg (by omega), if_pos (by omega)]

theorem encode_four (hlow : 0x10000 ≤ v) (hhigh : v < 0x110000) :
    String.utf8EncodeChar (Char.ofNat v) =
      [.ofNat (v / 262144 + 0xF0), .ofNat (v / 4096 % 64 + 0x80), .ofNat (v / 64 % 64 + 0x80),
        .ofNat (v % 64 + 0x80)] := by
  have hvalid : v.isValidChar := .inr ⟨by omega, by omega⟩
  have hlead : v / 262144 % 0x8 = v / 262144 := Nat.mod_eq_of_lt (by omega)
  simp only [String.utf8EncodeChar, val_ofNat hvalid, hlead]
  rw [if_neg (by omega), if_neg (by omega), if_neg (by omega)]

end

/-- The bytes that begin a character of two, three or four bytes, each with what it begins. -/
inductive Leads : UInt8 → Begun → Prop
  | two {n : Nat} : 2 ≤ n → n < 0x20 → Leads (.ofNat (n + 0xC0)) ⟨n, 1, 0x80, 0xBF⟩
  | three {n : Nat} : n < 0x10 → Leads (.ofNat (n + 0xE0))
      ⟨n, 2, .ofNat ((if n = 0 then 0x20 else 0) + 0x80),
        .ofNat ((if n = 0xD then 0x1F else 0x3F) + 0x80)⟩
  | four {n : Nat} : n < 5 → Leads (.ofNat (n + 0xF0))
      ⟨n, 3, .ofNat ((if n = 0 then 0x10 else 0) + 0x80),
        .ofNat ((if n = 4 then 0xF else 0x3F) + 0x80)⟩

theorem lead?_two : ∀ n < 0x20, 2 ≤ n → lead? (.ofNat (n + 0xC0)) = some ⟨n, 1, 0x80, 0xBF⟩ := by
  decide

theorem lead?_three : ∀ n < 0x10, lead? (.ofNat (n + 0xE0)) =
    some ⟨n, 2, .ofNat ((if n = 0 then 0x20 else 0) + 0x80),
      .ofNat ((if n = 0xD then 0x1F else 0x3F) + 0x80)⟩ := by
  decide

theorem lead?_four : ∀ n < 5, lead? (.ofNat (n + 0xF0)) =
    some ⟨n, 3, .ofNat ((if n = 0 then 0x10 else 0) + 0x80),
      .ofNat ((if n = 4 then 0xF else 0x3F) + 0x80)⟩ := by
  decide

theorem lead?_none : ∀ n < 256, n < 0xC2 ∨ 0xF4 < n → lead? (.ofNat n) = none := by
  decide +kernel

theorem Leads.lead? {b : UInt8} {begun : Begun} (H : Leads b begun) : lead? b = some begun := by
  cases H with
  | two hlow hhigh => exact lead?_two _ hhigh hlow
  | three h => exact lead?_three _ h
  | four h => exact lead?_four _ h

theorem leads_of_lead? {b : UInt8} {begun : Begun} (h : Utf8.lead? b = some begun) :
    Leads b begun := by
  have hb : .ofNat b.toNat = b := UInt8.ofNat_toNat
  have hlt : b.toNat < 256 := b.toNat_lt
  have lead {begun' : Begun} (H : Leads b begun') : Leads b begun := by
    rwa [Option.some.inj (h.symm.trans H.lead?)]
  generalize b.toNat = v at hb hlt
  subst hb
  rcases Nat.lt_or_ge v 0xC2 with hlow | hlow
  · rw [lead?_none v hlt (.inl hlow)] at h
    contradiction
  rcases Nat.lt_or_ge v 0xE0 with htwo | htwo
  · rw [← Nat.sub_add_cancel (Nat.le_trans (by decide) hlow : 0xC0 ≤ v)] at lead ⊢
    exact lead (.two (by omega) (by omega))
  rcases Nat.lt_or_ge v 0xF0 with hthree | hthree
  · rw [← Nat.sub_add_cancel htwo] at lead ⊢
    exact lead (.three (by omega))
  rcases Nat.lt_or_ge v 0xF5 with hfour | hfour
  · rw [← Nat.sub_add_cancel hthree] at lead ⊢
    exact lead (.four (by omega))
  · rw [lead?_none v hlt (.inr hfour)] at h
    contradiction

/-- The bytes complete a character that has begun. -/
inductive Begun.Completes : Begun → List UInt8 → Char → Prop
  | last {begun : Begun} {b : UInt8} : begun.low ≤ b → b ≤ begun.high → begun.missing ≤ 1 →
    Completes begun [b] (Char.ofNat (begun.bits * 64 + (b.toNat - 0x80)))
  | more {begun : Begun} {b : UInt8} {tail : List UInt8} {c : Char} :
    begun.low ≤ b → b ≤ begun.high → 1 < begun.missing →
    Completes ⟨begun.bits * 64 + (b.toNat - 0x80), begun.missing - 1, 0x80, 0xBF⟩ tail c →
    Completes begun (b :: tail) c

theorem toNat_tail {m : Nat} (h : m < 64) : (UInt8.ofNat (m + 0x80)).toNat = m + 0x80 :=
  UInt8.toNat_ofNat_of_lt' (by change m + 0x80 < 256; omega)

/-- The bytes of a range, by the bits that they stand for. -/
theorem mem_tails_iff (lo hi : Nat) (hlo : lo < 64) (hhi : hi < 64) {b : UInt8} :
    .ofNat (lo + 0x80) ≤ b ∧ b ≤ .ofNat (hi + 0x80) ↔
      ∃ m, lo ≤ m ∧ m ≤ hi ∧ b = .ofNat (m + 0x80) := by
  rw [UInt8.le_iff_toNat_le, UInt8.le_iff_toNat_le, toNat_tail hlo, toNat_tail hhi]
  constructor
  · rintro ⟨hlow, hhigh⟩
    refine ⟨b.toNat - 0x80, by omega, by omega, ?_⟩
    rw [Nat.sub_add_cancel (by omega), UInt8.ofNat_toNat]
  · rintro ⟨m, hlow, hhigh, rfl⟩
    rw [toNat_tail (by omega)]
    omega

section
variable {bits missing : Nat} {tail : List UInt8} {c : Char}

theorem completes_one_iff :
    Begun.Completes ⟨bits, 1, 0x80, 0xBF⟩ tail c ↔
      ∃ m < 64, tail = [.ofNat (m + 0x80)] ∧ c = Char.ofNat (bits * 64 + m) := by
  constructor
  · rintro (⟨hlow, hhigh, _⟩ | ⟨_, _, hmore, _⟩)
    · obtain ⟨m, _, hm, rfl⟩ := (mem_tails_iff 0 63 (by decide) (by decide)).mp ⟨hlow, hhigh⟩
      rw [toNat_tail (by omega), Nat.add_sub_cancel]
      exact ⟨m, by omega, rfl, rfl⟩
    · exact absurd hmore (Nat.lt_irrefl 1)
  · rintro ⟨m, hm, rfl, rfl⟩
    obtain ⟨hlow, hhigh⟩ := (mem_tails_iff 0 63 (by decide) (by decide)).mpr
      ⟨m, Nat.zero_le m, by omega, rfl⟩
    have hlast : Begun.Completes ⟨bits, 1, 0x80, 0xBF⟩ _ _ := .last hlow hhigh (Nat.le_refl 1)
    rwa [toNat_tail hm, Nat.add_sub_cancel] at hlast

theorem completes_succ_iff (lo hi : Nat) (hlo : lo < 64) (hhi : hi < 64) :
    Begun.Completes ⟨bits, missing + 2, .ofNat (lo + 0x80), .ofNat (hi + 0x80)⟩ tail c ↔
      ∃ m, lo ≤ m ∧ m ≤ hi ∧ ∃ rest, tail = .ofNat (m + 0x80) :: rest ∧
        Begun.Completes ⟨bits * 64 + m, missing + 1, 0x80, 0xBF⟩ rest c := by
  constructor
  · rintro (⟨_, _, hlast⟩ | ⟨hlow, hhigh, _, hrest⟩)
    · exact absurd hlast (by dsimp only; omega)
    · obtain ⟨m, hlo', hhi', rfl⟩ := (mem_tails_iff lo hi hlo hhi).mp ⟨hlow, hhigh⟩
      rw [toNat_tail (by omega), Nat.add_sub_cancel] at hrest
      exact ⟨m, hlo', hhi', _, rfl, hrest⟩
  · rintro ⟨m, hlow, hhigh, rest, rfl, hrest⟩
    have hm : m < 64 := by omega
    obtain ⟨hlow, hhigh⟩ := (mem_tails_iff lo hi hlo hhi).mpr ⟨m, hlow, hhigh, rfl⟩
    refine .more hlow hhigh (Nat.le_add_left ..) ?_
    rw [toNat_tail hm, Nat.add_sub_cancel]
    exact hrest

end

theorem encode_of_completes {b : UInt8} {begun : Begun} (H : Leads b begun) {tail : List UInt8}
    {c : Char} (hcompletes : begun.Completes tail c) : String.utf8EncodeChar c = b :: tail := by
  cases H with
  | @two n hlow hhigh =>
    obtain ⟨m, hm, rfl, rfl⟩ := completes_one_iff.mp hcompletes
    rw [encode_two (by omega) (by omega), show (n * 64 + m) / 64 = n by omega,
      show (n * 64 + m) % 64 = m by omega]
  | @three n h =>
    obtain ⟨m, hlow, hhigh, _, rfl, hrest⟩ :=
      (completes_succ_iff _ _ (by split <;> decide) (by split <;> decide)).mp hcompletes
    obtain ⟨l, hl, rfl, rfl⟩ := completes_one_iff.mp hrest
    have hm : m < 64 := by split at hhigh <;> omega
    have hfirst : 0x800 ≤ (n * 64 + m) * 64 + l := by split at hlow <;> omega
    have hvalid : Nat.isValidChar ((n * 64 + m) * 64 + l) := by
      change _ ∨ _
      split at hhigh <;> omega
    rw [encode_three hfirst (by omega) hvalid,
      show ((n * 64 + m) * 64 + l) / 4096 = n by omega,
      show ((n * 64 + m) * 64 + l) / 64 % 64 = m by omega,
      show ((n * 64 + m) * 64 + l) % 64 = l by omega]
  | @four n h =>
    obtain ⟨m, hlow, hhigh, _, rfl, hrest⟩ :=
      (completes_succ_iff _ _ (by split <;> decide) (by split <;> decide)).mp hcompletes
    obtain ⟨l, _, hl, _, rfl, hlast⟩ :=
      (completes_succ_iff 0 63 (by decide) (by decide)).mp hrest
    obtain ⟨k, hk, rfl, rfl⟩ := completes_one_iff.mp hlast
    have hm : m < 64 := by split at hhigh <;> omega
    have hfirst : 0x10000 ≤ ((n * 64 + m) * 64 + l) * 64 + k := by split at hlow <;> omega
    have hlast : ((n * 64 + m) * 64 + l) * 64 + k < 0x110000 := by split at hhigh <;> omega
    rw [encode_four hfirst hlast,
      show (((n * 64 + m) * 64 + l) * 64 + k) / 262144 = n by omega,
      show (((n * 64 + m) * 64 + l) * 64 + k) / 4096 % 64 = m by omega,
      show (((n * 64 + m) * 64 + l) * 64 + k) / 64 % 64 = l by omega,
      show (((n * 64 + m) * 64 + l) * 64 + k) % 64 = k by omega]

/-- Every character of more than one byte is begun by its first byte and completed by the others. -/
theorem exists_completes {c : Char} (hc : 0x80 ≤ c.toNat) :
    ∃ b tail begun, String.utf8EncodeChar c = b :: tail ∧ Leads b begun ∧
      begun.Completes tail c := by
  have hvalid : c.toNat < 0xD800 ∨ 0xDFFF < c.toNat ∧ c.toNat < 0x110000 := c.valid
  have heq : Char.ofNat c.toNat = c := Char.ofNat_toNat c
  generalize c.toNat = v at hc hvalid heq
  subst heq
  rcases Nat.lt_or_ge v 0x800 with htwo | htwo
  · refine ⟨_, _, _, encode_two hc htwo, .two (by omega) (by omega),
      completes_one_iff.mpr ⟨v % 64, by omega, rfl, ?_⟩⟩
    rw [Nat.div_add_mod']
  rcases Nat.lt_or_ge v 0x10000 with hthree | hthree
  · refine ⟨_, _, _, encode_three htwo hthree hvalid, .three (by omega),
      (completes_succ_iff _ _ (by split <;> decide) (by split <;> decide)).mpr
        ⟨v / 64 % 64, by split <;> omega, by split <;> omega, _, rfl, ?_⟩⟩
    refine completes_one_iff.mpr ⟨v % 64, by omega, rfl, ?_⟩
    rw [show (v / 4096 * 64 + v / 64 % 64) * 64 + v % 64 = v by omega]
  · refine ⟨_, _, _, encode_four hthree (by omega), .four (by omega),
      (completes_succ_iff _ _ (by split <;> decide) (by split <;> decide)).mpr
        ⟨v / 4096 % 64, by split <;> omega, by split <;> omega, _, rfl, ?_⟩⟩
    refine (completes_succ_iff 0 63 (by decide) (by decide)).mpr
      ⟨v / 64 % 64, Nat.zero_le _, by omega, _, rfl, ?_⟩
    refine completes_one_iff.mpr ⟨v % 64, by omega, rfl, ?_⟩
    rw [show ((v / 262144 * 64 + v / 4096 % 64) * 64 + v / 64 % 64) * 64 + v % 64 = v by omega]

/-! ## Decoding -/

theorem decodeFrom_none_cons (b : UInt8) (rest : List UInt8) :
    decodeFrom none (b :: rest) = (feedFresh b).1 ++ decodeFrom (feedFresh b).2 rest := rfl

theorem decodeFrom_some_cons (begun : Begun) (b : UInt8) (rest : List UInt8) :
    decodeFrom (some begun) (b :: rest) =
      (feedBegun begun b).1 ++ decodeFrom (feedBegun begun b).2 rest := rfl

/-- A byte that does not continue the character that has begun begins anew. -/
theorem decodeFrom_of_not_continues {begun : Begun} {b : UInt8}
    (h : ¬ (begun.low ≤ b ∧ b ≤ begun.high)) (rest : List UInt8) :
    decodeFrom (some begun) (b :: rest) = replacement :: decodeFrom none (b :: rest) := by
  have hfeed : feedBegun begun b = (replacement :: (feedFresh b).1, (feedFresh b).2) := if_neg h
  rw [decodeFrom_some_cons, hfeed]
  rfl

theorem Leads.tails_lt {b : UInt8} {begun : Begun} (H : Leads b begun) : 0xBF < b := by
  rw [UInt8.lt_iff_toNat_lt]
  refine Nat.lt_of_not_le fun hle => ?_
  have hnone := lead?_none b.toNat b.toNat_lt (.inl (Nat.lt_of_le_of_lt hle (by decide)))
  rw [UInt8.ofNat_toNat, H.lead?] at hnone
  contradiction

theorem feedFresh_of_leads {b : UInt8} {begun : Begun} (H : Leads b begun) :
    feedFresh b = ([], some begun) := by
  have hlt : ¬ b < 0x80 := by
    have htails := H.tails_lt
    rw [UInt8.lt_iff_toNat_lt] at htails ⊢
    exact Nat.not_lt.mpr (Nat.le_trans (by decide) (Nat.le_of_lt htails))
  rw [feedFresh, if_neg hlt, H.lead?]

/-- A byte between characters is one, begins one, or is a fault. -/
theorem feedFresh_cases (b : UInt8) :
    (∃ c, String.utf8EncodeChar c = [b] ∧ feedFresh b = ([c], none)) ∨
      (∃ begun, Leads b begun ∧ feedFresh b = ([], some begun)) ∨
      feedFresh b = ([replacement], none) := by
  unfold feedFresh
  by_cases hone : b < 0x80
  · rw [if_pos hone]
    rw [UInt8.lt_iff_toNat_lt] at hone
    refine .inl ⟨Char.ofNat b.toNat, ?_, rfl⟩
    rw [encode_one hone, UInt8.ofNat_toNat]
  · rw [if_neg hone]
    cases hlead : lead? b with
    | none => exact .inr (.inr rfl)
    | some begun => exact .inr (.inl ⟨begun, leads_of_lead? hlead, rfl⟩)

theorem decodeFrom_of_completes {begun : Begun} {tail : List UInt8} {c : Char}
    (H : begun.Completes tail c) (rest : List UInt8) :
    decodeFrom (some begun) (tail ++ rest) = c :: decodeFrom none rest := by
  induction H with
  | last hlow hhigh hmissing => simp [decodeFrom, feedBegun, hlow, hhigh, hmissing]
  | more hlow hhigh hmissing _ ih =>
    simp [decodeFrom, feedBegun, hlow, hhigh, Nat.not_le.mpr hmissing, ih]

theorem decodeFrom_encode (c : Char) (rest : List UInt8) :
    decodeFrom none (String.utf8EncodeChar c ++ rest) = c :: decodeFrom none rest := by
  rcases Nat.lt_or_ge c.toNat 0x80 with hone | hmore
  · have hbyte : (UInt8.ofNat c.toNat).toNat = c.toNat :=
      UInt8.toNat_ofNat_of_lt' (Nat.lt_trans hone (by decide))
    have hlt : UInt8.ofNat c.toNat < 0x80 := by
      rw [UInt8.lt_iff_toNat_lt, hbyte]
      exact hone
    have hencode := encode_one hone
    rw [Char.ofNat_toNat] at hencode
    rw [hencode, List.singleton_append, decodeFrom, feedFresh, if_pos hlt, hbyte, Char.ofNat_toNat]
    rfl
  · obtain ⟨b, tail, begun, hencode, hlead, hcompletes⟩ := exists_completes hmore
    rw [hencode, List.cons_append, decodeFrom, feedFresh_of_leads hlead]
    exact decodeFrom_of_completes hcompletes rest

theorem decodeFrom_flatMap_encode (cs : List Char) (rest : List UInt8) :
    decodeFrom none (cs.flatMap String.utf8EncodeChar ++ rest) = cs ++ decodeFrom none rest := by
  induction cs with
  | nil => rfl
  | cons c cs ih =>
    rw [List.flatMap_cons, List.append_assoc, decodeFrom_encode, ih, List.cons_append]

/-! ## What comes before a character -/

/-- No byte that begins a character continues the one that has begun. -/
structure Begun.Sound (begun : Begun) : Prop where
  low_ge : 0x80 ≤ begun.low
  high_le : begun.high ≤ 0xBF

/-- Between characters, or within one that no other one's beginning continues. -/
def SoundState (state : Option Begun) : Prop := ∀ begun, state = some begun → begun.Sound

theorem Leads.sound {b : UInt8} {begun : Begun} (H : Leads b begun) : begun.Sound := by
  cases H with
  | two => exact ⟨Nat.le_refl _, Nat.le_refl _⟩
  | three | four => constructor <;> dsimp only <;> split <;> decide

theorem sound_feedFresh (b : UInt8) : SoundState (feedFresh b).2 := by
  intro begun h
  rcases feedFresh_cases b with ⟨c, _, hfeed⟩ | ⟨begun', hlead, hfeed⟩ | hfeed
  · rw [hfeed] at h
    contradiction
  · rw [hfeed] at h
    exact Option.some.inj h ▸ hlead.sound
  · rw [hfeed] at h
    contradiction

theorem sound_feedBegun (begun : Begun) (b : UInt8) : SoundState (feedBegun begun b).2 := by
  unfold feedBegun
  split
  · dsimp only
    split
    · exact nofun
    · intro next h
      rw [← Option.some.inj h]
      exact ⟨Nat.le_refl _, Nat.le_refl _⟩
  · exact sound_feedFresh b

/-- A byte that continues no character. -/
def Starts (b : UInt8) : Prop := b < 0x80 ∨ 0xBF < b

theorem exists_starts_encode (c : Char) :
    ∃ b tail, String.utf8EncodeChar c = b :: tail ∧ Starts b := by
  rcases Nat.lt_or_ge c.toNat 0x80 with hone | hmore
  · have hencode := encode_one hone
    rw [Char.ofNat_toNat] at hencode
    refine ⟨_, [], hencode, .inl ?_⟩
    rwa [UInt8.lt_iff_toNat_lt, UInt8.toNat_ofNat_of_lt' (Nat.lt_trans hone (by decide))]
  · obtain ⟨b, tail, begun, hencode, hlead, _⟩ := exists_completes hmore
    exact ⟨b, tail, hencode, .inr hlead.tails_lt⟩

theorem decodeFrom_of_starts {begun : Begun} (H : begun.Sound) {b : UInt8} (hb : Starts b)
    (rest : List UInt8) :
    decodeFrom (some begun) (b :: rest) = replacement :: decodeFrom none (b :: rest) := by
  have hrange : ¬ (begun.low ≤ b ∧ b ≤ begun.high) := by
    rintro ⟨hlow, hhigh⟩
    rcases hb with hb | hb
    · exact absurd (UInt8.le_trans H.low_ge hlow) (UInt8.not_le.mpr hb)
    · exact absurd (UInt8.le_trans hhigh H.high_le) (UInt8.not_le.mpr hb)
  exact decodeFrom_of_not_continues hrange rest

theorem exists_decodeFrom_append {state : Option Begun} (H : SoundState state)
    (before : List UInt8) {b : UInt8} (hb : Starts b) (rest : List UInt8) :
    ∃ out, decodeFrom state (before ++ b :: rest) = out ++ decodeFrom none (b :: rest) := by
  induction before generalizing state with
  | nil =>
    cases state with
    | none => exact ⟨[], rfl⟩
    | some begun => exact ⟨[replacement], decodeFrom_of_starts (H begun rfl) hb rest⟩
  | cons a before ih =>
    cases state with
    | none =>
      obtain ⟨out, hout⟩ := ih (sound_feedFresh a)
      refine ⟨(feedFresh a).1 ++ out, ?_⟩
      rw [List.cons_append, decodeFrom_none_cons, hout, List.append_assoc]
    | some begun =>
      obtain ⟨out, hout⟩ := ih (sound_feedBegun begun a)
      refine ⟨(feedBegun begun a).1 ++ out, ?_⟩
      rw [List.cons_append, decodeFrom_some_cons, hout, List.append_assoc]

/-! ## What a decoder makes of bytes -/

inductive Reads : List UInt8 → List Char → Prop
  | done : Reads [] []
  | char (c : Char) {bytes : List UInt8} {cs : List Char} : Reads bytes cs →
    Reads (String.utf8EncodeChar c ++ bytes) (c :: cs)
  | fault (part : List UInt8) {bytes : List UInt8} {cs : List Char} : Reads bytes cs →
    Reads (part ++ bytes) (replacement :: cs)

theorem exists_split (begun : Begun) (bytes : List UInt8) :
    (∃ tail c rest, bytes = tail ++ rest ∧ begun.Completes tail c) ∨
      ∃ part rest, bytes = part ++ rest ∧
        decodeFrom (some begun) bytes = replacement :: decodeFrom none rest := by
  induction bytes generalizing begun with
  | nil => exact .inr ⟨[], [], rfl, rfl⟩
  | cons b bytes ih =>
    by_cases hrange : begun.low ≤ b ∧ b ≤ begun.high
    · obtain ⟨hlow, hhigh⟩ := hrange
      rcases Nat.lt_or_ge 1 begun.missing with hmissing | hmissing
      · rcases ih ⟨begun.bits * 64 + (b.toNat - 0x80), begun.missing - 1, 0x80, 0xBF⟩ with
          ⟨tail, c, rest, rfl, H⟩ | ⟨part, rest, rfl, hdecode⟩
        · exact .inl ⟨b :: tail, c, rest, rfl, .more hlow hhigh hmissing H⟩
        · refine .inr ⟨b :: part, rest, rfl, ?_⟩
          simpa [decodeFrom, feedBegun, hlow, hhigh, Nat.not_le.mpr hmissing] using hdecode
      · exact .inl ⟨[b], _, bytes, rfl, .last hlow hhigh hmissing⟩
    · refine .inr ⟨[], b :: bytes, rfl, ?_⟩
      exact decodeFrom_of_not_continues hrange bytes

theorem reads_decodeFrom (bytes : List UInt8) : Reads bytes (decodeFrom none bytes) := by
  induction h : bytes.length using Nat.strongRecOn generalizing bytes with
  | ind n ih =>
    have shorter (rest : List UInt8) (hlt : rest.length < bytes.length) :
        Reads rest (decodeFrom none rest) := ih rest.length (h ▸ hlt) rest rfl
    cases bytes with
    | nil => exact .done
    | cons b rest =>
      have hrest := shorter rest (Nat.lt_succ_self _)
      rw [decodeFrom_none_cons]
      rcases feedFresh_cases b with ⟨c, hencode, hfeed⟩ | ⟨begun, hlead, hfeed⟩ | hfeed
      · rw [hfeed]
        have H := hrest.char c
        rwa [hencode] at H
      · rw [hfeed]
        rcases exists_split begun rest with
          ⟨tail, c, rest, rfl, hcompletes⟩ | ⟨part, rest, rfl, hdecode⟩
        · have hlt : rest.length < (b :: (tail ++ rest)).length := by
            rw [List.length_cons, List.length_append]
            omega
          have H := (shorter rest hlt).char c
          rw [encode_of_completes hlead hcompletes] at H
          rwa [List.nil_append, decodeFrom_of_completes hcompletes]
        · have hlt : rest.length < (b :: (part ++ rest)).length := by
            rw [List.length_cons, List.length_append]
            omega
          have H := (shorter rest hlt).fault (b :: part)
          rwa [List.nil_append, hdecode]
      · rw [hfeed]
        exact hrest.fault [b]

/-- The parts of a decoded text that hold no replacement are written in the bytes. -/
theorem Reads.prefix_encode {bytes : List UInt8} {cs : List Char} (H : Reads bytes cs)
    {part : List Char} (hpart : replacement ∉ part) (hbegins : part <+: cs) :
    part.flatMap String.utf8EncodeChar <+: bytes := by
  induction H generalizing part with
  | done =>
    rw [List.prefix_nil.mp hbegins]
    exact List.nil_prefix
  | char c _ ih =>
    rcases List.prefix_cons_iff.mp hbegins with rfl | ⟨part, rfl, hshorter⟩
    · exact List.nil_prefix
    · have hrest := ih (fun h => hpart (List.mem_cons_of_mem c h)) hshorter
      exact (List.prefix_append_right_inj _).mpr hrest
  | fault broken _ _ =>
    rcases List.prefix_cons_iff.mp hbegins with rfl | ⟨part, rfl, _⟩
    · exact List.nil_prefix
    · exact absurd List.mem_cons_self hpart

theorem Reads.infix_encode {bytes : List UInt8} {cs : List Char} (H : Reads bytes cs)
    {part : List Char} (hpart : replacement ∉ part) (hlies : part <:+: cs) :
    part.flatMap String.utf8EncodeChar <:+: bytes := by
  induction H with
  | done =>
    rw [List.infix_nil.mp hlies]
    exact List.nil_infix
  | char c H ih =>
    rcases List.infix_cons_iff.mp hlies with hbegins | hrest
    · exact ((H.char c).prefix_encode hpart hbegins).isInfix
    · exact (ih hrest).trans (List.suffix_append ..).isInfix
  | fault broken H ih =>
    rcases List.infix_cons_iff.mp hlies with hbegins | hrest
    · exact ((H.fault broken).prefix_encode hpart hbegins).isInfix
    · exact (ih hrest).trans (List.suffix_append ..).isInfix

/-- What is written in the bytes is decoded, whatever stands before and behind it. -/
theorem infix_decodeFrom {part : List Char} {bytes : List UInt8}
    (h : part.flatMap String.utf8EncodeChar <:+: bytes) : part <:+: decodeFrom none bytes := by
  obtain ⟨before, behind, rfl⟩ := h
  cases part with
  | nil => exact List.nil_infix
  | cons c part =>
    obtain ⟨b, tail, hencode, hstarts⟩ := exists_starts_encode c
    have hdecode := decodeFrom_flatMap_encode (c :: part) behind
    rw [List.flatMap_cons, hencode, List.cons_append, List.cons_append] at hdecode
    have hnone : SoundState none := nofun
    obtain ⟨out, hout⟩ := exists_decodeFrom_append hnone before hstarts
      (tail ++ part.flatMap String.utf8EncodeChar ++ behind)
    rw [List.flatMap_cons, hencode, List.append_assoc, List.cons_append, List.cons_append, hout,
      hdecode]
    exact ⟨out, decodeFrom none behind, by rw [List.append_assoc]⟩

theorem infix_decodeFrom_iff {part : List Char} (hpart : replacement ∉ part) {bytes : List UInt8} :
    part <:+: decodeFrom none bytes ↔ part.flatMap String.utf8EncodeChar <:+: bytes :=
  ⟨(reads_decodeFrom bytes).infix_encode hpart, infix_decodeFrom⟩

end IndexWatch.Text.Utf8
