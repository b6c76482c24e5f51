import LineLint.Pattern.Search

namespace LineLint.Pattern

variable {α : Type}

/-- The ways to take characters of `set`, the longest first. -/
def runs (set : CharSet) : (taken : Nat) → (before after : List Char) →
    List (Nat × List Char × List Char)
  | taken, before, [] => [(taken, before, [])]
  | taken, before, c :: rest =>
      if set.contains c then
        runs set (taken + 1) (c :: before) rest ++ [(taken, before, c :: rest)]
      else [(taken, before, c :: rest)]

/-- The places where a pattern can stop, in the order of preference. -/
def ends : Pattern → Cursor → List Cursor
  | empty, c => [c]
  | one set, c =>
      match c.after with
      | [] => []
      | x :: rest => if set.contains x then [⟨x :: c.before, rest, c.captured⟩] else []
  | many set, c =>
      (runs set 0 c.before c.after).map fun (_, before, after) => ⟨before, after, c.captured⟩
  | seq p q, c => (p.ends c).flatMap q.ends
  | alt p q, c => p.ends c ++ q.ends c
  | atStart, c => if c.before.isEmpty then [c] else []
  | atEnd, c => if c.after.isEmpty then [c] else []
  | wordEdge, c => if c.atWordEdge then [c] else []
  | notBefore set, c => if c.after.head?.any set.contains then [] else [c]
  | capture set, c =>
      (runs set 0 c.before c.after).filterMap fun (taken, before, after) =>
        if taken = 0 then none else some ⟨before, after, some (before.take taken).reverse⟩

theorem takeRun_eq_findSome? (set : CharSet) (k : Nat → List Char → List Char → Option α)
    (taken : Nat) (before after : List Char) :
    takeRun set k taken before after =
      (runs set taken before after).findSome? fun (taken, before, after) =>
        k taken before after := by
  induction after generalizing taken before with
  | nil => cases h : k taken before [] <;> simp [takeRun, runs, h]
  | cons c rest induction =>
      unfold takeRun runs
      split
      · rw [induction, List.findSome?_append]
        cases List.findSome? _ (runs set (taken + 1) (c :: before) rest) with
        | some found => rfl
        | none => cases h : k taken before (c :: rest) <;> simp [h]
      · cases h : k taken before (c :: rest) <;> simp [h]

theorem run_eq_findSome?_ends (p : Pattern) (k : Cursor → Option α) (c : Cursor) :
    p.run k c = (p.ends c).findSome? k := by
  induction p generalizing c k with
  | empty => cases h : k c <;> simp [run, ends, h]
  | one set =>
      cases after : c.after with
      | nil => simp [run, ends, after]
      | cons x rest =>
          by_cases member : set.contains x = true
          · cases h : k ⟨x :: c.before, rest, c.captured⟩ <;> simp [run, ends, after, member, h]
          · simp [run, ends, after, member]
  | many set =>
      simp only [run, ends, takeRun_eq_findSome?, List.findSome?_map]
      rfl
  | seq p q first second =>
      simp only [run, ends, first]
      induction p.ends c with
      | nil => rfl
      | cons d rest induction =>
          rw [List.findSome?_cons, List.flatMap_cons, List.findSome?_append, second, induction]
          cases List.findSome? k (q.ends d) <;> rfl
  | alt p q first second =>
      simp only [run, ends, first, second, List.findSome?_append]
      cases List.findSome? k (p.ends c) <;> rfl
  | atStart =>
      simp only [run, ends]
      split
      · cases h : k c <;> simp [h]
      · rfl
  | atEnd =>
      simp only [run, ends]
      split
      · cases h : k c <;> simp [h]
      · rfl
  | wordEdge =>
      simp only [run, ends]
      split
      · cases h : k c <;> simp [h]
      · rfl
  | notBefore set =>
      simp only [run, ends]
      split
      · rfl
      · cases h : k c <;> simp [h]
  | capture set =>
      simp only [run, ends, takeRun_eq_findSome?]
      induction runs set 0 c.before c.after with
      | nil => rfl
      | cons entry rest induction =>
          obtain ⟨taken, before, after⟩ := entry
          by_cases nothing : taken = 0
          · simpa [nothing] using induction
          · rw [List.findSome?_cons, induction]
            cases h : k ⟨before, after, some (before.take taken).reverse⟩ <;> simp [nothing, h]

end LineLint.Pattern
