import IndexWatch.Text.Occurrence

/-! # Lines of a text

A part without the characters that end lines does not reach across one. So by
`contains_iff_exists_line` a text contains it exactly where one of its lines does. -/

namespace IndexWatch.Text

/-- The lines of a text, of which every character that `breaks` holds of ends one. -/
def lines (breaks : Char → Bool) (text : String) : List String :=
  (text.toList.splitOnP breaks).map String.ofList

section
variable {α : Type} {part xs rest : List α} {sep : α}

theorem prefix_append_cons_iff (h : sep ∉ part) : part <+: xs ++ sep :: rest ↔ part <+: xs := by
  constructor
  · intro hbegins
    induction xs generalizing part with
    | nil =>
      rcases List.prefix_cons_iff.mp hbegins with rfl | ⟨_, rfl, _⟩
      · exact List.nil_prefix
      · exact absurd List.mem_cons_self h
    | cons x xs ih =>
      rcases List.prefix_cons_iff.mp hbegins with rfl | ⟨part, rfl, hrest⟩
      · exact List.nil_prefix
      · have hpart : sep ∉ part := fun hmem => h (List.mem_cons_of_mem x hmem)
        exact List.cons_prefix_cons.mpr ⟨rfl, ih hpart hrest⟩
  · exact fun hbegins => hbegins.trans (List.prefix_append ..)

/-- A part without the separator lies on one of its two sides. -/
theorem infix_append_cons_iff (h : sep ∉ part) :
    part <:+: xs ++ sep :: rest ↔ part <:+: xs ∨ part <:+: rest := by
  constructor
  · intro hlies
    induction xs with
    | nil =>
      rcases List.infix_cons_iff.mp hlies with hbegins | hrest
      · have hnone : part <+: [] := (prefix_append_cons_iff h).mp hbegins
        exact .inl hnone.isInfix
      · exact .inr hrest
    | cons x xs ih =>
      rcases List.infix_cons_iff.mp hlies with hbegins | hrest
      · have hleft : part <+: x :: xs := (prefix_append_cons_iff h).mp hbegins
        exact .inl hleft.isInfix
      · exact (ih hrest).imp_left List.infix_cons
  · rintro (hlies | hlies)
    · exact hlies.trans (List.prefix_append ..).isInfix
    · exact hlies.trans ((List.suffix_cons ..).trans (List.suffix_append ..)).isInfix

/-- A part without separators lies within one of the pieces that they leave. -/
theorem infix_iff_exists_mem_splitOnP {breaks : α → Bool} (h : ∀ a ∈ part, breaks a = false) :
    part <:+: xs ↔ ∃ piece ∈ xs.splitOnP breaks, part <:+: piece := by
  induction hlength : xs.length using Nat.strongRecOn generalizing xs with
  | ind n ih =>
    by_cases hwhole : ∀ a ∈ xs, breaks a = false
    · simp [List.splitOnP_eq_singleton hwhole]
    · obtain ⟨sep, hsep, hbreaks⟩ : ∃ sep ∈ xs, breaks sep = true := by simpa using hwhole
      obtain ⟨left, right, rfl⟩ := List.append_of_mem hsep
      have hnot : sep ∉ part := fun hmem => by simp [h sep hmem] at hbreaks
      have hleft := ih left.length (by simp at hlength; omega) rfl
      have hright := ih right.length (by simp at hlength; omega) rfl
      rw [infix_append_cons_iff hnot, hleft, hright, List.splitOnP_append_cons _ _ hbreaks]
      simp only [List.mem_append, or_and_right, exists_or]

end

/-- A part without line ends lies in a text exactly where it lies in one of its lines. -/
theorem contains_iff_exists_line {breaks : Char → Bool} {text part : String}
    (h : ∀ c ∈ part.toList, breaks c = false) :
    contains text part = true ↔ ∃ line ∈ lines breaks text, part.toList <:+: line.toList := by
  rw [contains_iff, infix_iff_exists_mem_splitOnP h]
  constructor
  · rintro ⟨piece, hpiece, hpart⟩
    refine ⟨_, List.mem_map_of_mem hpiece, ?_⟩
    rwa [String.toList_ofList]
  · rintro ⟨_, hline, hpart⟩
    obtain ⟨piece, hpiece, rfl⟩ := List.mem_map.mp hline
    rw [String.toList_ofList] at hpart
    exact ⟨piece, hpiece, hpart⟩

theorem contains_append_iff {text text' part : String} {c : Char} (h : c ∉ part.toList) :
    contains (text ++ String.singleton c ++ text') part = true ↔
      contains text part = true ∨ contains text' part = true := by
  simp only [contains_iff, String.toList_append, String.toList_singleton, List.append_assoc,
    List.singleton_append, infix_append_cons_iff h]

end IndexWatch.Text
