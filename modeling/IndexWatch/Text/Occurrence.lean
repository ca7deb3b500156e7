/-! Whether a text occurs in another. -/

namespace IndexWatch.Text

/-- Whether `part` occurs in a list without a gap. -/
def occursIn {α : Type} [BEq α] (part : List α) : List α → Bool
  | [] => part.isEmpty
  | c :: rest => part.isPrefixOf (c :: rest) || occursIn part rest

theorem occursIn_iff {α : Type} [BEq α] [LawfulBEq α] {part whole : List α} :
    occursIn part whole = true ↔ part <:+: whole := by
  induction whole with
  | nil => cases part <;> simp [occursIn]
  | cons c rest ih => simp [occursIn, ih, List.infix_cons_iff, List.isPrefixOf_iff_prefix]

/-- Whether a text contains another one, anywhere. -/
def contains (whole part : String) : Bool := occursIn part.toList whole.toList

theorem contains_iff {whole part : String} :
    contains whole part = true ↔ part.toList <:+: whole.toList := occursIn_iff

end IndexWatch.Text
