namespace LineLint

/-- The offset of the first occurrence of `token`; the empty token occurs at the start. -/
def offset? (token : List Char) : List Char → Option Nat
  | [] => if token.isEmpty then some 0 else none
  | c :: rest =>
      if token.isPrefixOf (c :: rest) then some 0 else (offset? token rest).map (· + 1)

def mentions (text : List Char) (token : String) : Bool := (offset? token.toList text).isSome

/-- The offset of the first listed token that occurs at all. -/
def firstOffset? (tokens : List (List Char)) (text : List Char) : Option Nat :=
  tokens.findSome? (offset? · text)

@[simp] theorem offset?_empty (text : List Char) : offset? [] text = some 0 := by
  cases text <;> simp [offset?]

@[simp] theorem firstOffset?_nil (text : List Char) : firstOffset? [] text = none := rfl

theorem isPrefix_drop_of_offset? {token text : List Char} {n : Nat}
    (found : offset? token text = some n) :
    token <+: text.drop n := by
  induction text generalizing n with
  | nil =>
      simp only [offset?] at found
      split at found <;> simp_all
  | cons c rest induction =>
      simp only [offset?] at found
      split at found
      next here =>
        cases found
        exact List.isPrefixOf_iff_prefix.mp here
      next =>
        obtain ⟨m, later, rfl⟩ := Option.map_eq_some_iff.mp found
        simpa using induction later

end LineLint
