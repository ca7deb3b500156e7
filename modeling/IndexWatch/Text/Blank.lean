/-! White space: the Unicode property White_Space, and text without it at the two ends. -/

namespace IndexWatch.Text

/-- The characters with the Unicode property White_Space. -/
def isBlank (c : Char) : Bool :=
  let n := c.toNat
  (9 ≤ n && n ≤ 13) || n == 0x20 || n == 0x85 || n == 0xA0 || n == 0x1680 ||
    (0x2000 ≤ n && n ≤ 0x200A) || n == 0x2028 || n == 0x2029 || n == 0x202F || n == 0x205F ||
    n == 0x3000

/-- The characters between the first and the last one that `drop` does not hold of. -/
def stripped (drop : Char → Bool) (cs : List Char) : List Char :=
  ((cs.dropWhile drop).reverse.dropWhile drop).reverse

/-- A text without the white space at its ends. -/
def trim (s : String) : String := String.ofList (stripped isBlank s.toList)

theorem stripped_append {drop : Char → Bool} {before cs behind : List Char}
    (hbefore : ∀ c ∈ before, drop c = true) (hbehind : ∀ c ∈ behind, drop c = true) :
    stripped drop (before ++ cs ++ behind) = stripped drop cs := by
  have hreverse : ∀ c ∈ behind.reverse, drop c = true := fun c hc =>
    hbehind c (List.mem_reverse.mp hc)
  rw [stripped, List.append_assoc, List.dropWhile_append_of_pos hbefore, List.dropWhile_append]
  split
  · next hempty =>
    have hnone : behind.dropWhile drop = [] := by
      rw [← List.append_nil behind, List.dropWhile_append_of_pos hbehind, List.dropWhile_nil]
    rw [hnone, stripped, List.isEmpty_iff.mp hempty]
  · rw [List.reverse_append, List.dropWhile_append_of_pos hreverse, stripped]

/-- White space at the ends of a text makes no difference. -/
theorem trim_append {before s behind : String} (hbefore : ∀ c ∈ before.toList, isBlank c = true)
    (hbehind : ∀ c ∈ behind.toList, isBlank c = true) : trim (before ++ s ++ behind) = trim s := by
  rw [trim, String.toList_append, String.toList_append, stripped_append hbefore hbehind, trim]

end IndexWatch.Text
