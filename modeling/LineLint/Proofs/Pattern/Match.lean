import LineLint.Pattern.Ends
import LineLint.Proofs.Text.Token

namespace LineLint.Pattern

variable {p q : Pattern} {c d : Cursor}

@[simp] theorem mem_ends_append :
    d ∈ (p ++ q).ends c ↔ ∃ between ∈ p.ends c, d ∈ q.ends between := by
  change d ∈ (p.ends c).flatMap q.ends ↔ _
  rw [List.mem_flatMap]

@[simp] theorem mem_ends_or : d ∈ (p ||| q).ends c ↔ d ∈ p.ends c ∨ d ∈ q.ends c := by
  change d ∈ p.ends c ++ q.ends c ↔ _
  rw [List.mem_append]

theorem mem_ends_one {set : CharSet} :
    d ∈ (one set).ends c ↔
      ∃ x rest, c.after = x :: rest ∧ set.contains x = true ∧
        d = ⟨x :: c.before, rest, c.captured⟩ := by
  cases after : c.after with
  | nil => simp [ends, after]
  | cons x rest =>
      constructor
      · intro stops
        by_cases member : set.contains x = true
        · simp only [ends, after, member, if_true, List.mem_singleton] at stops
          exact ⟨x, rest, rfl, member, stops⟩
        · simp [ends, after, member] at stops
      · rintro ⟨y, others, same, member, rfl⟩
        cases same
        simp [ends, after, member]

theorem run_some_eq_head? : p.run some c = (p.ends c).head? := by
  rw [run_eq_findSome?_ends]
  cases p.ends c <;> rfl

theorem searchFrom_cons (before rest : List Char) (x : Char) :
    p.searchFrom before (x :: rest) =
      (p.run some ⟨before, x :: rest, none⟩).or (p.searchFrom (x :: before) rest) := by
  rw [searchFrom]
  cases p.run some ⟨before, x :: rest, none⟩ <;> rfl

theorem run_isSome_iff : (p.run some c).isSome = true ↔ ∃ d, d ∈ p.ends c := by
  rw [run_eq_findSome?_ends]
  cases p.ends c with
  | nil => simp
  | cons first rest => simp

theorem searchFrom_isSome_iff {before after : List Char} :
    (p.searchFrom before after).isSome = true ↔
      ∃ skipped rest d, after = skipped ++ rest ∧
        d ∈ p.ends ⟨skipped.reverse ++ before, rest, none⟩ := by
  induction after generalizing before with
  | nil =>
      rw [searchFrom, run_isSome_iff]
      constructor
      · rintro ⟨d, found⟩
        exact ⟨[], [], d, rfl, found⟩
      · rintro ⟨skipped, rest, d, split, found⟩
        obtain ⟨rfl, rfl⟩ := List.append_eq_nil_iff.mp split.symm
        exact ⟨d, found⟩
  | cons x after induction =>
      have here := run_isSome_iff (p := p) (c := ⟨before, x :: after, none⟩)
      rw [searchFrom]
      constructor
      · intro found
        split at found
        next place match_ =>
          obtain ⟨d, stops⟩ := here.mp (by rw [match_]; rfl)
          exact ⟨[], x :: after, d, rfl, stops⟩
        next =>
          obtain ⟨skipped, rest, d, rfl, stops⟩ := induction.mp found
          exact ⟨x :: skipped, rest, d, rfl, by simpa using stops⟩
      · rintro ⟨skipped, rest, d, split, stops⟩
        cases found : p.run some ⟨before, x :: after, none⟩ with
        | some place => rfl
        | none =>
            cases skipped with
            | nil =>
                rw [List.nil_append] at split
                subst split
                rw [found] at here
                exact absurd (here.mpr ⟨d, stops⟩) (by simp)
            | cons y skipped =>
                obtain ⟨rfl, rfl⟩ := List.cons.inj split
                exact induction.mpr ⟨skipped, rest, d, rfl, by simpa using stops⟩

theorem occursIn_iff {text : List Char} :
    p.occursIn text = true ↔
      ∃ skipped rest d, text = skipped ++ rest ∧ d ∈ p.ends ⟨skipped.reverse, rest, none⟩ := by
  simpa [occursIn, search] using @searchFrom_isSome_iff p [] text

theorem occursIn_of_occursIn_append {text : List Char} (found : (p ++ q).occursIn text = true) :
    p.occursIn text = true := by
  obtain ⟨skipped, rest, d, split, stops⟩ := occursIn_iff.mp found
  obtain ⟨between, first, -⟩ := mem_ends_append.mp stops
  exact occursIn_iff.mpr ⟨skipped, rest, between, split, first⟩

theorem mem_ends_chars_cons {set : Char → CharSet} {x : Char} {text : List Char} :
    d ∈ (chars set (x :: text)).ends c ↔
      ∃ y rest, c.after = y :: rest ∧ (set x).contains y = true ∧
        d ∈ (chars set text).ends ⟨y :: c.before, rest, c.captured⟩ := by
  cases text with
  | nil =>
      change d ∈ (one (set x)).ends c ↔ _
      rw [mem_ends_one]
      simp [chars, ends]
  | cons z text =>
      rw [chars, mem_ends_append]
      · simp only [mem_ends_one]
        constructor
        · rintro ⟨_, ⟨y, rest, after, member, rfl⟩, stops⟩
          exact ⟨y, rest, after, member, stops⟩
        · rintro ⟨y, rest, after, member, stops⟩
          exact ⟨_, ⟨y, rest, after, member, rfl⟩, stops⟩
      · exact List.cons_ne_nil z text

theorem mem_ends_lit {token : String} :
    d ∈ (lit token).ends c ↔
      ∃ rest, c.after = token.toList ++ rest ∧
        d = ⟨token.toList.reverse ++ c.before, rest, c.captured⟩ := by
  rw [lit]
  induction token.toList generalizing c with
  | nil => simp [chars, ends]
  | cons x token induction =>
      simp only [mem_ends_chars_cons, induction, CharSet.contains_only, beq_iff_eq]
      constructor
      · rintro ⟨y, rest, after, rfl, others, rfl, rfl⟩
        exact ⟨others, after, by simp⟩
      · rintro ⟨rest, after, rfl⟩
        exact ⟨x, token ++ rest, after, rfl, rest, rfl, by simp⟩

theorem occursIn_lit {text : List Char} {token : String} :
    (lit token).occursIn text = true ↔ token.toList <:+: text := by
  rw [occursIn_iff]
  simp only [mem_ends_lit]
  constructor
  · rintro ⟨skipped, _, d, rfl, rest, rfl, -⟩
    exact ⟨skipped, rest, by simp⟩
  · rintro ⟨skipped, rest, rfl⟩
    exact ⟨skipped, token.toList ++ rest, _, by simp, rest, rfl, rfl⟩

theorem infix_of_occursIn_spaced {text : List Char} {first second : String} {rest : List String}
    (found : (spaced (first :: second :: rest)).occursIn text = true) :
    first.toList <:+: text :=
  occursIn_lit.mp (occursIn_of_occursIn_append (occursIn_of_occursIn_append found))

end LineLint.Pattern
