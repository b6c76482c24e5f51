import LineLint.Proofs.Text.Token

namespace LineLint

theorem intercalate_eq_joinWith (separator : Char) (parts : List (List Char)) :
    [separator].intercalate parts = joinWith separator parts := by
  induction parts with
  | nil => rfl
  | cons first rest induction =>
      cases rest with
      | nil => simp [List.intercalate, joinWith]
      | cons second rest =>
          rw [joinWith, ← induction]
          · simp [List.intercalate]
          · exact List.cons_ne_nil second rest

section

variable {separator : Char} {token left right first rest : List Char} {parts : List (List Char)}

theorem infix_joinWith_iff_of_not_mem (outside : separator ∉ token) (nonempty : parts ≠ []) :
    token <:+: joinWith separator parts ↔ ∃ part ∈ parts, token <:+: part := by
  constructor
  · exact infix_part_of_infix_joinWith outside nonempty
  · rintro ⟨part, member, held⟩
    exact held.trans (infix_joinWith_of_mem member)

/-- A text that holds the separator once is cut by it in one way. -/
theorem eq_of_append_cons_eq {other others : List Char} (leftFree : separator ∉ left)
    (rightFree : separator ∉ right)
    (same : left ++ separator :: right = other ++ separator :: others) :
    left = other ∧ right = others := by
  rcases List.append_eq_append_iff.mp same with ⟨more, rfl, tail⟩ | ⟨more, rfl, tail⟩
  · cases more with
    | nil => exact ⟨by simp, (List.cons.inj tail).2⟩
    | cons c more =>
        obtain ⟨-, rfl⟩ := List.cons.inj tail
        exact absurd (List.mem_append_right more List.mem_cons_self) rightFree
  · cases more with
    | nil => exact ⟨by simp, (List.cons.inj tail).2.symm⟩
    | cons c more =>
        obtain ⟨rfl, -⟩ := List.cons.inj tail
        exact absurd (List.mem_append_right other List.mem_cons_self) leftFree

theorem prefix_joinWith_cons_iff (rightFree : separator ∉ right) :
    right <+: joinWith separator (first :: parts) ↔ right <+: first := by
  cases parts with
  | nil => rfl
  | cons second parts =>
      constructor
      · rintro ⟨beyond, same⟩
        rcases List.append_eq_append_iff.mp same with ⟨more, rfl, -⟩ | ⟨more, rfl, joined⟩
        · exact List.prefix_append right more
        · cases more with
          | nil => simp
          | cons c more =>
              obtain ⟨rfl, -⟩ := List.cons.inj joined
              exact absurd (List.mem_append_right first List.mem_cons_self) rightFree
      · intro starts
        exact starts.trans (List.prefix_append _ _)

theorem exists_cut_iff (leftFree : separator ∉ left) (rightFree : separator ∉ right) :
    (∃ other others, left ++ separator :: right = other ++ separator :: others ∧
      other <:+ first ∧ others <+: rest) ↔ left <:+ first ∧ right <+: rest := by
  constructor
  · rintro ⟨other, others, same, ends, starts⟩
    obtain ⟨rfl, rfl⟩ := eq_of_append_cons_eq leftFree rightFree same
    exact ⟨ends, starts⟩
  · rintro ⟨ends, starts⟩
    exact ⟨left, right, rfl, ends, starts⟩

theorem exists_neighbours_cons_iff {near : List Char → List Char → Prop} {second : List Char} :
    (∃ former latter, [former, latter] <:+: first :: second :: parts ∧ near former latter) ↔
      near first second ∨
        ∃ former latter, [former, latter] <:+: second :: parts ∧ near former latter := by
  have pair : ∀ former latter, [former, latter] <:+: first :: second :: parts ↔
      (former = first ∧ latter = second) ∨ [former, latter] <:+: second :: parts := by
    intro former latter
    rw [List.infix_cons_iff, List.cons_prefix_cons, List.cons_prefix_cons,
      and_iff_left List.nil_prefix]
  simp only [pair, or_and_right, exists_or, and_assoc, exists_and_left, exists_eq_left]

/-- A token with the separator in it stands inside a part or on the seam of two. -/
theorem infix_joinWith_iff (leftFree : separator ∉ left) (rightFree : separator ∉ right) :
    left ++ separator :: right <:+: joinWith separator parts ↔
      (∃ part ∈ parts, left ++ separator :: right <:+: part) ∨
        ∃ first second, [first, second] <:+: parts ∧ left <:+ first ∧ right <+: second := by
  induction parts with
  | nil => simp [joinWith]
  | cons first rest induction =>
      cases rest with
      | nil => simp [joinWith, List.infix_cons_iff]
      | cons second rest =>
          rw [joinWith, infix_append_cons_iff, induction, exists_cut_iff leftFree rightFree,
            prefix_joinWith_cons_iff rightFree,
            @exists_neighbours_cons_iff first rest (fun former latter => left <:+ former ∧
              right <+: latter) second]
          · simp only [List.mem_cons, exists_eq_or_imp, or_assoc, or_comm, or_left_comm]
          · exact List.cons_ne_nil second rest

end

end LineLint
