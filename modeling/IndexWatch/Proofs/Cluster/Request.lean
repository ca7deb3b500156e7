import IndexWatch.Cluster.Api
import IndexWatch.Json.Reader
import IndexWatch.Proofs.Record
import IndexWatch.Proofs.Text.Utf8
import Mathlib.Data.List.TakeWhile

/-! # What a request asks for

A server that is `recorded` writes down the requests that it is sent. What a request for the objects
with a label asks for is read off its target as a server does it, by the path and the fields of the
query: `AsksFor`. The label is put into the query in such a way that it is read again as it was,
`decodeForm_encodeForm`, and that it neither ends its field nor the query; so by `exists_asksFor`, a
request for a namespace that can stand in a path asks for that label and for nothing else. -/

namespace IndexWatch.Cluster

/-! ## Requests that are written down -/

section
variable {σ α : Type}

/-- The same server, where the requests that it is sent are written down. -/
def Api.recorded (api : Api σ) : Api (Recorded String σ) where
  send target := Recorded.noting target (api.send target)

/-- What a read sends that begins at `now`, if its request can be made. -/
def sends (request : Except RequestFault String) (now : Nat) : List (Nat × String) :=
  match request with
  | .error _ => []
  | .ok request => [(now, request)]

theorem Api.follows_read (api : Api σ) (request : Except RequestFault String) (decode : Decode α) :
    Recorded.Follows Recorded.mk (api.recorded.read request decode) (api.read request decode)
      fun now _ => sends request now := by
  unfold Api.read sends
  cases request with
  | error fault => exact Recorded.follows_pure _
  | ok request =>
    refine ((Recorded.follows_noting request (api.send request)).bind_quiet ?_).overNetwork
    intro response
    cases response <;> exact Recorded.follows_pure _

end

/-! ## Form values -/

/-- The byte that two hexadecimal digits write. -/
def hexByte? (high low : Char) : Option UInt8 := do
  let h ← Json.hexValue? high
  let l ← Json.hexValue? low
  return .ofNat (16 * h + l)

/-- The bytes of a form value: a plus sign is a blank, and a percent sign stands before the digits of a
byte. -/
def decodeForm : List Char → List UInt8
  | '+' :: rest => 0x20 :: decodeForm rest
  | '%' :: high :: low :: rest =>
    match hexByte? high low with
    | some b => b :: decodeForm rest
    | none => 0x25 :: decodeForm (high :: low :: rest)
  | c :: rest => String.utf8EncodeChar c ++ decodeForm rest
  | [] => []

theorem hexByte?_upperHexDigit (b : UInt8) :
    hexByte? (upperHexDigit (b.toNat / 16)) (upperHexDigit (b.toNat % 16)) = some b := by
  have hdigit : ∀ n < 16, Json.hexValue? (upperHexDigit n) = some n := by decide
  have hlt : b.toNat < 256 := b.toNat_lt
  have hhigh := hdigit (b.toNat / 16) (by omega)
  have hlow := hdigit (b.toNat % 16) (Nat.mod_lt _ (by decide))
  simp only [hexByte?, hhigh, hlow, Option.bind_eq_bind, Option.bind_some, Nat.div_add_mod]
  exact congrArg some (UInt8.ofNat_toNat)

/-- How a byte is written: by the character that it is, as a plus sign, or by its digits. -/
theorem encodeByte_cases (b : UInt8) :
    (encodeByte b = [Char.ofNat b.toNat] ∧ b.toNat < 0x80 ∧
      Char.ofNat b.toNat ≠ '+' ∧ Char.ofNat b.toNat ≠ '%') ∨
    (encodeByte b = ['+'] ∧ b = 0x20) ∨
    encodeByte b = ['%', upperHexDigit (b.toNat / 16), upperHexDigit (b.toNat % 16)] := by
  unfold encodeByte
  dsimp only
  split
  next h =>
    rw [Bool.and_eq_true, decide_eq_true_iff] at h
    refine .inl ⟨rfl, h.1, ?_, ?_⟩
    all_goals
      intro hc
      rw [hc] at h
      exact absurd h.2 (by decide)
  next =>
    split
    next h => exact .inr (.inl ⟨rfl, beq_iff_eq.mp h⟩)
    next => exact .inr (.inr rfl)

theorem decodeForm_encodeByte (b : UInt8) (rest : List Char) :
    decodeForm (encodeByte b ++ rest) = b :: decodeForm rest := by
  rcases encodeByte_cases b with ⟨hb, hlt, hplus, hpercent⟩ | ⟨hb, rfl⟩ | hb
  · have hbyte : String.utf8EncodeChar (Char.ofNat b.toNat) = [b] := by
      rw [Text.Utf8.encode_one hlt, UInt8.ofNat_toNat]
    rw [hb, List.singleton_append, decodeForm, hbyte, List.singleton_append]
    · exact hplus
    · intro _ _ _ h _
      exact hpercent h
  · rw [hb, List.singleton_append, decodeForm]
  · rw [hb]
    simp only [List.cons_append, List.nil_append, decodeForm, hexByte?_upperHexDigit]

/-- What is put into a form is read again as it was. -/
theorem decodeForm_encodeForm (s : String) :
    decodeForm (encodeForm s).toList = s.toUTF8.toList := by
  rw [encodeForm, String.toList_ofList]
  induction s.toUTF8.toList with
  | nil => rfl
  | cons b bytes ih => rw [List.flatMap_cons, decodeForm_encodeByte, ih]

theorem mem_encodeForm {s : String} {c : Char} (h : c ∈ (encodeForm s).toList) :
    isQueryChar c = true ∧ c ≠ '&' := by
  have hbyte : ∀ n < 256,
      (encodeByte (.ofNat n)).all (fun c => isQueryChar c && c != '&') = true := by
    decide +kernel
  rw [encodeForm, String.toList_ofList] at h
  obtain ⟨b, _, hc⟩ := List.mem_flatMap.mp h
  rw [← UInt8.ofNat_toNat (x := b)] at hc
  have hchar := List.all_eq_true.mp (hbyte b.toNat b.toNat_lt) c hc
  rwa [Bool.and_eq_true, bne_iff_ne] at hchar

/-! ## What a target says -/

/-- The path of a request target, which ends at the first question mark. -/
def pathOf (target : String) : String := String.ofList (target.toList.takeWhile (· != '?'))

/-- What stands behind that question mark. -/
def queryOf (target : String) : List Char := (target.toList.dropWhile (· != '?')).drop 1

/-- The text of a form value. -/
def formText (value : List Char) : String := Text.Utf8.decodeLossy (decodeForm value)

/-- The fields of a query, by name and value; what is empty between two ampersands is none. -/
def fieldsOf (query : List Char) : List (String × String) :=
  ((query.splitOn '&').filter (!·.isEmpty)).map fun field =>
    (formText (field.takeWhile (· != '=')), formText ((field.dropWhile (· != '=')).drop 1))

/-- A target asks for the objects of a kind in a namespace that have a label, and for no others. -/
structure AsksFor (target : String) (resource : Resource) (ns label : String) : Prop where
  path : pathOf target = resource.path ns
  query : fieldsOf (queryOf target) = [("labelSelector", label)]

theorem formText_encodeForm (s : String) : formText (encodeForm s).toList = s := by
  have hdecode := Text.Utf8.decodeFrom_flatMap_encode s.toList []
  rw [List.append_nil, ← Text.Utf8.toList_toUTF8] at hdecode
  rw [formText, decodeForm_encodeForm, Text.Utf8.decodeLossy, hdecode]
  simp [Text.Utf8.decodeFrom]

theorem fieldsOf_field {name value : List Char} (hname : ∀ c ∈ name, c ≠ '&' ∧ c ≠ '=')
    (hvalue : ∀ c ∈ value, c ≠ '&') :
    fieldsOf ('&' :: (name ++ '=' :: value)) = [(formText name, formText value)] := by
  have hfield : ∀ c ∈ name ++ '=' :: value, (c == '&') = false := by
    simp only [List.forall_mem_append, List.forall_mem_cons, beq_eq_false_iff_ne]
    exact ⟨fun c hc => (hname c hc).1, by decide, hvalue⟩
  have hbefore : ∀ c ∈ name, (c != '=') = true := fun c hc => bne_iff_ne.mpr (hname c hc).2
  have hsplit : ('&' :: (name ++ '=' :: value)).splitOn '&' = [[], name ++ '=' :: value] := by
    have hfirst := List.splitOnP_append_cons (p := (· == '&')) [] (name ++ '=' :: value)
      (beq_self_eq_true '&')
    rwa [List.splitOnP_eq_singleton hfield] at hfirst
  have hempty : (name ++ '=' :: value).isEmpty = false := by simp
  rw [fieldsOf, hsplit]
  simp [hempty, List.takeWhile_append_of_pos hbefore, List.dropWhile_append_of_pos hbefore]

theorem ne_of_isPathChar {c : Char} (h : isPathChar c = true) : c ≠ '#' ∧ c ≠ '?' := by
  constructor
  all_goals
    rintro rfl
    exact absurd h (by decide)

theorem ne_of_isQueryChar {c : Char} (h : isQueryChar c = true) : c ≠ '#' := by
  rintro rfl
  exact absurd h (by decide)

section
variable {path query : List Char} (hpath : ∀ c ∈ path, isPathChar c = true)
  (hquery : ∀ c ∈ query, isQueryChar c = true)
include hpath

theorem takeWhile_path : (path ++ '?' :: query).takeWhile (· != '?') = path := by
  have hbefore : ∀ c ∈ path, (c != '?') = true := fun c hc =>
    bne_iff_ne.mpr (ne_of_isPathChar (hpath c hc)).2
  simp [List.takeWhile_append_of_pos hbefore]

theorem drop_dropWhile_path :
    ((path ++ '?' :: query).dropWhile (· != '?')).drop 1 = query := by
  have hbefore : ∀ c ∈ path, (c != '?') = true := fun c hc =>
    bne_iff_ne.mpr (ne_of_isPathChar (hpath c hc)).2
  simp [List.dropWhile_append_of_pos hbefore]

include hquery

/-- Nothing is cut off a target of such characters. -/
theorem target_of_chars :
    target (String.ofList (path ++ '?' :: query)) = .ok (String.ofList (path ++ '?' :: query)) := by
  have hkept : (path ++ '?' :: query).takeWhile (· != '#') = path ++ '?' :: query := by
    rw [List.takeWhile_eq_self_iff]
    simp only [List.forall_mem_append, List.forall_mem_cons, bne_iff_ne]
    exact ⟨fun c hc => (ne_of_isPathChar (hpath c hc)).1, by decide,
      fun c hc => ne_of_isQueryChar (hquery c hc)⟩
  have hchars : (path.all isPathChar && query.all isQueryChar) = true := by
    rw [Bool.and_eq_true, List.all_eq_true, List.all_eq_true]
    exact ⟨hpath, hquery⟩
  rw [target]
  simp only [String.toList_ofList, hkept, takeWhile_path hpath, drop_dropWhile_path hpath, hchars,
    if_true]

end

/-- A request for a namespace that can stand in a path can be made, and asks for the objects there with
the label, whatever the label is. -/
theorem exists_asksFor (resource : Resource) {ns : String}
    (hns : ∀ c ∈ ns.toList, isPathChar c = true) (label : String) :
    ∃ request, listTarget resource ns (some label) = .ok request ∧
      AsksFor request resource ns label := by
  let path := (resource.path ns).toList
  let query := '&' :: ("labelSelector".toList ++ '=' :: (encodeForm label).toList)
  have hpath : ∀ c ∈ path, isPathChar c = true := by
    have hends : resource.root.toList.all isPathChar = true ∧
        resource.plural.toList.all isPathChar = true := by
      cases resource <;> decide
    have hbetween : ("/namespaces/".toList ++ "/".toList).all isPathChar = true := by decide
    simp only [List.all_eq_true, List.forall_mem_append] at hends hbetween
    simp only [path, Resource.path, String.toList_append, List.forall_mem_append]
    exact ⟨⟨⟨⟨hends.1, hbetween.1⟩, hns⟩, hbetween.2⟩, hends.2⟩
  have hname : "labelSelector".toList.all
      (fun c => isQueryChar c && c != '&' && c != '=') = true := by decide
  simp only [List.all_eq_true, Bool.and_eq_true, bne_iff_ne] at hname
  have hquery : ∀ c ∈ query, isQueryChar c = true := by
    simp only [query, List.forall_mem_append, List.forall_mem_cons]
    exact ⟨by decide, fun c hc => (hname c hc).1.1, by decide, fun c hc => (mem_encodeForm hc).1⟩
  have htext : resource.path ns ++ "?&labelSelector=" ++ encodeForm label =
      String.ofList (path ++ '?' :: query) := by
    apply String.toList_inj.mp
    simp [path, query]
  have hnamed : formText "labelSelector".toList = "labelSelector" := by decide +kernel
  have hfields := fieldsOf_field (fun c hc => ⟨(hname c hc).1.2, (hname c hc).2⟩) fun c hc =>
    (mem_encodeForm (s := label) hc).2
  refine ⟨String.ofList (path ++ '?' :: query), ?_, ?_, ?_⟩
  · rw [← target_of_chars hpath hquery, ← htext]
    rfl
  · rw [pathOf, String.toList_ofList, takeWhile_path hpath, String.ofList_toList]
  · rw [queryOf, String.toList_ofList, drop_dropWhile_path hpath, hfields, hnamed,
      formText_encodeForm]

end IndexWatch.Cluster
