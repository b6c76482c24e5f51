import LineLint.Text.Lines
import LineLint.Text.Offset

namespace LineLint

theorem offset?_isSome_iff {token text : List Char} :
    (offset? token text).isSome = true ↔ token <:+: text := by
  induction text with
  | nil => simp [offset?]
  | cons c rest induction =>
      rw [List.infix_cons_iff, ← induction, ← List.isPrefixOf_iff_prefix]
      by_cases here : token.isPrefixOf (c :: rest) = true <;> simp [offset?, here]

theorem offset?_eq_none_iff {token text : List Char} :
    offset? token text = none ↔ ¬ token <:+: text := by
  rw [← offset?_isSome_iff]
  simp

@[simp] theorem mentions_iff {text : List Char} {token : String} :
    mentions text token = true ↔ token.toList <:+: text := offset?_isSome_iff

theorem not_isPrefix_drop_of_lt_offset? {token text : List Char} {n k : Nat}
    (found : offset? token text = some n) (earlier : k < n) : ¬ token <+: text.drop k := by
  induction text generalizing n k with
  | nil =>
      simp only [offset?] at found
      split at found
      · cases found
        omega
      · cases found
  | cons c rest induction =>
      simp only [offset?] at found
      split at found
      next => cases found; omega
      next elsewhere =>
        obtain ⟨m, later, rfl⟩ := Option.map_eq_some_iff.mp found
        cases k with
        | zero =>
            intro here
            exact elsewhere (List.isPrefixOf_iff_prefix.mpr here)
        | succ k => exact induction later (by omega)

theorem offset?_lt_length {token text : List Char} {n : Nat} (visible : token ≠ [])
    (found : offset? token text = some n) : n < text.length := by
  have here := isPrefix_drop_of_offset? found
  rcases Nat.lt_or_ge n text.length with inside | outside
  · exact inside
  · rw [List.drop_eq_nil_of_le outside, List.prefix_nil] at here
    exact absurd here visible

theorem offset?_le_length {token text : List Char} {n : Nat} (found : offset? token text = some n) :
    n ≤ text.length := by
  cases token with
  | nil =>
      rw [offset?_empty] at found
      cases found
      exact Nat.zero_le _
  | cons c token => exact Nat.le_of_lt (offset?_lt_length (List.cons_ne_nil c token) found)

theorem offset?_eq_some {token text : List Char} {n : Nat} (here : token <+: text.drop n)
    (first : ∀ k, k < n → ¬ token <+: text.drop k) : offset? token text = some n := by
  have occurs : token <:+: text := here.isInfix.trans (List.drop_suffix n text).isInfix
  obtain ⟨m, found⟩ := Option.isSome_iff_exists.mp (offset?_isSome_iff.mpr occurs)
  rcases Nat.lt_trichotomy m n with before | same | beyond
  · exact absurd (isPrefix_drop_of_offset? found) (first m before)
  · rw [found, same]
  · exact absurd here (not_isPrefix_drop_of_lt_offset? found beyond)

theorem offset?_append_right {token text : List Char} {n : Nat}
    (found : offset? token text = some n)
    (rest : List Char) : offset? token (text ++ rest) = some n := by
  have here := isPrefix_drop_of_offset? found
  have inside := offset?_le_length found
  have within : ∀ {k}, k ≤ n → (text ++ rest).drop k = text.drop k ++ rest := by
    intro k upTo
    exact List.drop_append_of_le_length (Nat.le_trans upTo inside)
  apply offset?_eq_some
  · rw [within (Nat.le_refl n)]
    exact here.trans (List.prefix_append _ rest)
  · intro k earlier sooner
    have room : token.length ≤ (text.drop k).length := by
      have := here.length_le
      simp only [List.length_drop] at this ⊢
      omega
    rw [within (Nat.le_of_lt earlier)] at sooner
    exact not_isPrefix_drop_of_lt_offset? found earlier
      (List.prefix_of_prefix_length_le sooner (List.prefix_append _ rest) room)

theorem firstOffset?_eq_some_iff {tokens : List (List Char)} {text : List Char} {n : Nat} :
    firstOffset? tokens text = some n ↔
      ∃ earlier token later, tokens = earlier ++ token :: later ∧
        offset? token text = some n ∧ ∀ other ∈ earlier, ¬ other <:+: text := by
  simp only [firstOffset?, List.findSome?_eq_some_iff, offset?_eq_none_iff]

section

variable {separator : Char} {token : List Char} {parts : List (List Char)}

theorem infix_append_cons_iff {first rest : List Char} :
    token <:+: first ++ separator :: rest ↔
      token <:+: first ∨ token <:+: rest ∨
        ∃ left right, token = left ++ separator :: right ∧ left <:+ first ∧ right <+: rest := by
  constructor
  · intro found
    rcases List.infix_append_iff.mp found with inFirst | inRest | ⟨left, right, rfl, ends, starts⟩
    · exact .inl inFirst
    · rcases List.infix_cons_iff.mp inRest with atSeparator | later
      · rcases List.prefix_cons_iff.mp atSeparator with rfl | ⟨right, rfl, begins⟩
        · exact .inl List.nil_infix
        · exact .inr (.inr ⟨[], right, rfl, List.nil_suffix, begins⟩)
      · exact .inr (.inl later)
    · rcases List.prefix_cons_iff.mp starts with rfl | ⟨right, rfl, begins⟩
      · exact .inl (by simpa using ends.isInfix)
      · exact .inr (.inr ⟨left, right, rfl, ends, begins⟩)
  · rintro (inFirst | inRest | ⟨left, right, rfl, ⟨before, rfl⟩, ⟨after, rfl⟩⟩)
    · exact inFirst.trans ⟨[], separator :: rest, by simp⟩
    · exact inRest.trans ⟨first ++ [separator], [], by simp⟩
    · exact ⟨before, after, by simp⟩

theorem infix_part_of_infix_joinWith (outside : separator ∉ token) (nonempty : parts ≠ [])
    (found : token <:+: joinWith separator parts) : ∃ part ∈ parts, token <:+: part := by
  induction parts with
  | nil => exact absurd rfl nonempty
  | cons first rest induction =>
      cases rest with
      | nil => exact ⟨first, List.mem_singleton_self first, found⟩
      | cons second rest =>
          change token <:+: first ++ separator :: joinWith separator (second :: rest) at found
          rcases infix_append_cons_iff.mp found with inFirst | inRest | ⟨left, right, rfl, -⟩
          · exact ⟨first, List.mem_cons_self, inFirst⟩
          · obtain ⟨part, member, held⟩ := induction (List.cons_ne_nil second rest) inRest
            exact ⟨part, List.mem_cons_of_mem first member, held⟩
          · exact absurd (List.mem_append_right left List.mem_cons_self) outside

theorem infix_joinWith_of_mem {part : List Char} (member : part ∈ parts) :
    part <:+: joinWith separator parts := by
  induction parts with
  | nil => cases member
  | cons first rest induction =>
      cases rest with
      | nil =>
          obtain rfl := List.mem_singleton.mp member
          exact List.infix_rfl
      | cons second rest =>
          apply infix_append_cons_iff.mpr
          rcases List.mem_cons.mp member with rfl | later
          · exact .inl List.infix_rfl
          · exact .inr (.inl (induction later))

end

theorem exists_line_of_infix {token text : List Char} (unbroken : '\n' ∉ token)
    (found : token <:+: text) : ∃ line ∈ lines text, token <:+: line := by
  apply infix_part_of_infix_joinWith unbroken (lines_ne_nil text)
  rwa [lines, joinWith_split]

theorem infix_of_mem_lines {text : List Char} {line : Line} (member : line ∈ lines text) :
    line <:+: text := by
  have joined := @infix_joinWith_of_mem '\n' (lines text) line member
  rwa [lines, joinWith_split] at joined

end LineLint
