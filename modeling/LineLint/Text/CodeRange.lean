namespace LineLint

/-- Ranges `(first, last)` in increasing order. -/
abbrev CodeRanges := List (Nat × Nat)

/-- Whether a code point lies in one of the ranges; the search ends at the first range above it. -/
def CodeRanges.contains : CodeRanges → Nat → Bool
  | [], _ => false
  | (first, last) :: rest, n =>
      if n < first then false else n ≤ last || CodeRanges.contains rest n

@[simp] theorem CodeRanges.contains_nil (n : Nat) : CodeRanges.contains [] n = false := rfl

end LineLint
