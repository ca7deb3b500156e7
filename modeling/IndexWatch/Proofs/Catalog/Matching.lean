import IndexWatch.Proofs.Catalog.Fetching
import IndexWatch.Proofs.Text.Lines
import IndexWatch.Proofs.Text.Utf8

/-! # What it means to be listed

A catalog is searched as one text, and it is the text that its bytes decode to. Neither shows: a
part without line ends is listed exactly where one of the entries lists it, `readByLine`, and a part
without replacements exactly where its bytes stand in the body, `hasEntry_eq_ok_of_receives`. -/

namespace IndexWatch.Catalog

open Text

/-! ## Entry by entry -/

/-- Whether a part is listed is a question about the lines of a catalog, one at a time. -/
structure ReadByLine (breaks : Char → Bool) (part : String) : Prop where
  lists_iff (catalog : String) : lists catalog part = true ↔
    ∃ entry ∈ Text.lines breaks catalog, part.toList <:+: entry.toList
  lists_append (upper lower : String) {c : Char} : breaks c = true →
    lists (upper ++ String.singleton c ++ lower) part = (lists upper part || lists lower part)
  reordered {catalog catalog' : String} :
    (Text.lines breaks catalog).Perm (Text.lines breaks catalog') →
      lists catalog part = lists catalog' part
  edited {catalog catalog' : String} {before between between' behind : List String} :
    Text.lines breaks catalog = before ++ between ++ behind →
    Text.lines breaks catalog' = before ++ between' ++ behind →
    (∀ entry ∈ between ++ between', ¬ part.toList <:+: entry.toList) →
      lists catalog part = lists catalog' part

section
variable {breaks : Char → Bool} {part : String} (hpart : ∀ c ∈ part.toList, breaks c = false)
include hpart

theorem lists_eq_any_lines (catalog : String) :
    lists catalog part = (Text.lines breaks catalog).any (contains · part) := by
  rw [Bool.eq_iff_iff, List.any_eq_true]
  simp only [contains_iff]
  exact contains_iff_exists_line hpart

/-- A part without line ends is listed exactly where a single line contains it. -/
theorem readByLine : ReadByLine breaks part where
  lists_iff catalog := contains_iff_exists_line hpart
  lists_append upper lower c hbreaks := by
    have hnot : c ∉ part.toList := fun hmem => by simp [hpart c hmem] at hbreaks
    rw [Bool.eq_iff_iff, Bool.or_eq_true]
    exact contains_append_iff hnot
  reordered {catalog catalog'} hperm := by
    rw [lists_eq_any_lines hpart catalog, lists_eq_any_lines hpart catalog', hperm.any_eq]
  edited {catalog catalog' before between between' behind} hlines hlines' hnone := by
    have hsilent {entries : List String} (h : ∀ entry ∈ entries, entry ∈ between ++ between') :
        entries.any (contains · part) = false :=
      List.any_eq_false.mpr fun entry hentry => by simp [contains_iff, hnone entry (h entry hentry)]
    rw [lists_eq_any_lines hpart catalog, lists_eq_any_lines hpart catalog', hlines, hlines']
    simp only [List.any_append, hsilent fun _ => List.mem_append_left between',
      hsilent fun _ => List.mem_append_right between]

end

/-- Entries around an empty one. A line end stands within the first prefix. -/
def jaegerCatalog : String :=
  "green open foo-jae\nger-000001\n\ngreen open bar-jaeger-000002\n"

/-- The prefix is found in the one entry that contains it, and not where a line end breaks it up. -/
theorem readByLine_jaeger :
    ("jaeger-".toList.all fun c => (c == '\n') = false) = true ∧
      ReadByLine (· == '\n') "jaeger-" ∧ lists jaegerCatalog "jaeger-" = true ∧
      lists "green open foo-jae\nger-000001\n" "jaeger-" = false := by
  have hclean : ("jaeger-".toList.all fun c => (c == '\n') = false) = true := by decide +kernel
  have hread : ReadByLine (· == '\n') "jaeger-" :=
    readByLine fun c hc => by simpa using List.all_eq_true.mp hclean c hc
  have hlines : Text.lines (· == '\n') jaegerCatalog =
      ["green open foo-jae", "ger-000001", "", "green open bar-jaeger-000002", ""] := by
    decide +kernel
  have hentry : "jaeger-".toList <:+: "green open bar-jaeger-000002".toList :=
    contains_iff.mp (by decide +kernel)
  refine ⟨hclean, hread, (hread.lists_iff _).mpr ⟨_, ?_, hentry⟩, by decide +kernel⟩
  rw [hlines]
  simp

/-! ## Byte by byte -/

theorem lists_decodeLossy_iff {part : String} (hpart : Utf8.replacement ∉ part.toList)
    (body : Http.Bytes) :
    lists (Utf8.decodeLossy body) part = true ↔ part.toUTF8.toList <:+: body := by
  rw [lists, contains, occursIn_iff, Utf8.decodeLossy, String.toList_ofList, Utf8.toList_toUTF8,
    Utf8.infix_decodeFrom_iff hpart]

namespace Query

variable {σ : Type} {stack : Network.Stack} {query : Query} {dial : Dial σ} {now : Nat} {world : σ}

/-- The answer that a response gives is told by the bytes of its body, however garbled they are. -/
theorem hasEntry_eq_ok_of_receives {response : Http.Response}
    (hreceives : query.Receives stack dial now world response)
    (hsuccess : Http.isSuccess response.status = true)
    (hbegins : Utf8.replacement ∉ query.indexPrefix.toList) :
    ∃ found, (Timed.run (query.hasEntry dial stack) now world).value = .ok found ∧
      (found = true ↔ query.indexPrefix.toUTF8.toList <:+: response.body) := by
  let found := lists (Utf8.decodeLossy response.body) query.indexPrefix
  refine ⟨found, value_hasEntry_eq_ok_iff.mpr ⟨response, hreceives, isSuccess_iff.mp hsuccess, ?_⟩,
    lists_decodeLossy_iff hbegins response.body⟩
  exact occursIn_iff.symm

/-- An index between two characters that are cut off. -/
def garbledCatalog : Http.Bytes :=
  [0xE2, 0x82] ++ Http.ascii "jaeger-span-2024-01-01" ++ [0xC3, 0x0A]

def garbledQuery : Query := ⟨9200, "jaeger-", none, standardRequestTimeout⟩

theorem garbledQuery_finds :
    let dial := answering 0 ((⟨200, garbledCatalog⟩ : Http.Response).render .length)
    ∃ found, (Timed.run (garbledQuery.hasEntry dial .standard) 0 ()).value = .ok found ∧
      (found = true ↔ "jaeger-".toUTF8.toList <:+: garbledCatalog) := by
  intro dial
  have hread : Network.Stack.standard.readResponse
      ((⟨200, garbledCatalog⟩ : Http.Response).render .length) = .ok ⟨200, garbledCatalog⟩ :=
    congrArg (Except.mapError Http.ResponseFault.told)
      (Http.read_render (by decide) (by decide) (by decide) .length)
  have hintime : 0 < garbledQuery.strikes 0 := by decide
  have hreceives : garbledQuery.Receives .standard dial 0 () ⟨200, garbledCatalog⟩ :=
    ⟨_, _, brings_answering rfl 0 0 _, hread, hintime⟩
  exact hasEntry_eq_ok_of_receives hreceives (by decide) (by decide)

end Query

end IndexWatch.Catalog
