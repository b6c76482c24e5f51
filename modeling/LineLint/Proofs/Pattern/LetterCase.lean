import LineLint.Proofs.Pattern.Match
import LineLint.Text.Lines
import Mathlib.Data.List.Basic

namespace LineLint

/-- The text with its ASCII letters in their small forms. -/
def smallLetters (text : List Char) : List Char := text.map Char.toLower

def capitals : List Char := "ABCDEFGHIJKLMNOPQRSTUVWXYZ".toList

def isUncased (c : Char) : Bool := c.toLower == c && c.toUpper == c

theorem toLower_eq_or_mem_capitals (c : Char) : c.toLower = c ∨ c ∈ capitals := by
  by_cases capital : 65 ≤ c.toNat ∧ c.toNat ≤ 90
  · have each :
        ((List.range' 65 26).all fun code => capitals.contains (Char.ofNat code)) = true := by
      decide
    right
    rw [← Char.ofNat_toNat c, ← List.contains_iff_mem]
    apply List.all_eq_true.mp each
    rw [List.mem_range'_1]
    omega
  · exact .inl (dif_neg capital)

/-- What capitals and their small forms agree on is the same for the small form of any character. -/
theorem apply_toLower {β : Type} (read : Char → β)
    (agree : capitals.map (read ·.toLower) = capitals.map read) (c : Char) :
    read c.toLower = read c := by
  rcases toLower_eq_or_mem_capitals c with same | capital
  · rw [same]
  · exact List.map_inj_left.mp agree c capital

theorem contains_toLower_of_isUncased {members : List Char} (uncased : members.all isUncased = true)
    (c : Char) : members.contains c.toLower = members.contains c := by
  apply apply_toLower members.contains
  apply List.map_congr_left
  intro c capital
  have cased : capitals.all (fun c => !isUncased c && !isUncased c.toLower) = true := by decide
  have either := List.all_eq_true.mp cased c capital
  rw [Bool.and_eq_true, Bool.not_eq_true', Bool.not_eq_true'] at either
  obtain ⟨large, small⟩ := either
  have absent : ∀ {x}, isUncased x = false → members.contains x = false := by
    intro x cased
    rw [← Bool.not_eq_true, List.contains_iff_mem]
    intro member
    rw [List.all_eq_true.mp uncased x member] at cased
    cases cased
  rw [absent large, absent small]

namespace CharSet

/-- The set holds both forms of a letter or none. -/
def ignoresCase : CharSet → Bool
  | only x => isUncased x
  | oneOf members | noneOf members => members.all isUncased
  | anyCase _ | blank | digit | word => true

theorem contains_toLower {set : CharSet} (ignores : set.ignoresCase = true) (c : Char) :
    set.contains c.toLower = set.contains c := by
  cases set with
  | only x =>
      have alone : [x].all isUncased = true := by simpa [ignoresCase] using ignores
      simpa [ignoresCase] using contains_toLower_of_isUncased alone c
  | oneOf members => exact contains_toLower_of_isUncased ignores c
  | noneOf members => exact congrArg not (contains_toLower_of_isUncased ignores c)
  | anyCase x =>
      have folded : foldCase c.toLower = foldCase c := apply_toLower foldCase (by decide) c
      rw [contains_anyCase, contains_anyCase, folded]
  | blank => exact apply_toLower isBlank (by decide) c
  | digit => exact apply_toLower isDecimalDigit (by decide) c
  | word => exact apply_toLower isWordChar (by decide) c

end CharSet

namespace Cursor

def small (c : Cursor) : Cursor :=
  ⟨smallLetters c.before, smallLetters c.after, c.captured.map smallLetters⟩

theorem atWordEdge_small (c : Cursor) : c.small.atWordEdge = c.atWordEdge := by
  have sides : ∀ text, (smallLetters text).head?.any isWordChar = text.head?.any isWordChar := by
    intro text
    cases text with
    | nil => rfl
    | cons x rest => exact CharSet.word.contains_toLower rfl x
  rw [atWordEdge, atWordEdge, small, sides, sides]

end Cursor

namespace Pattern

def ignoresCase : Pattern → Bool
  | one set | many set | notBefore set | capture set => set.ignoresCase
  | seq p q | alt p q => p.ignoresCase && q.ignoresCase
  | empty | atStart | atEnd | wordEdge => true

variable {p : Pattern}

theorem runs_small {set : CharSet} (ignores : set.ignoresCase = true) (taken : Nat)
    (before after : List Char) :
    runs set taken (smallLetters before) (smallLetters after) =
      (runs set taken before after).map fun (taken, before, after) =>
        (taken, smallLetters before, smallLetters after) := by
  induction after generalizing taken before with
  | nil => rfl
  | cons x rest induction =>
      have longer := induction (taken + 1) (x :: before)
      simp only [smallLetters, List.map_cons, runs, set.contains_toLower ignores] at longer ⊢
      split
      · rw [longer, List.map_append]
        rfl
      · rfl

/-- In small letters a pattern has the ends that it has in the text. -/
theorem ends_small (ignores : p.ignoresCase = true) (c : Cursor) :
    p.ends c.small = (p.ends c).map Cursor.small := by
  induction p generalizing c with
  | empty => rfl
  | one set =>
      cases after : c.after with
      | nil => simp [ends, Cursor.small, smallLetters, after]
      | cons x rest =>
          have member := set.contains_toLower ignores x
          by_cases held : set.contains x = true <;>
            simp [ends, Cursor.small, smallLetters, after, member, held]
  | many set =>
      simp only [ends, Cursor.small, runs_small ignores, List.map_map]
      rfl
  | seq p q first second =>
      obtain ⟨left, right⟩ := Bool.and_eq_true_iff.mp ignores
      simp only [ends, first left, List.flatMap_map, List.map_flatMap, second right]
  | alt p q first second =>
      obtain ⟨left, right⟩ := Bool.and_eq_true_iff.mp ignores
      simp only [ends, first left, second right, List.map_append]
  | atStart => by_cases start : c.before = [] <;> simp [ends, Cursor.small, smallLetters, start]
  | atEnd => by_cases done : c.after = [] <;> simp [ends, Cursor.small, smallLetters, done]
  | wordEdge =>
      rw [ends, ends, c.atWordEdge_small]
      split <;> rfl
  | notBefore set =>
      cases after : c.after with
      | nil => simp [ends, Cursor.small, smallLetters, after]
      | cons x rest =>
          have member := set.contains_toLower ignores x
          by_cases held : set.contains x = true <;>
            simp [ends, Cursor.small, smallLetters, after, member, held]
  | capture set =>
      simp only [ends, Cursor.small, runs_small ignores, List.filterMap_map, List.map_filterMap]
      apply List.filterMap_congr
      rintro ⟨taken, before, after⟩ -
      by_cases nothing : taken = 0 <;>
        simp [nothing, Cursor.small, smallLetters]

theorem searchFrom_small (ignores : p.ignoresCase = true) (before after : List Char) :
    p.searchFrom (smallLetters before) (smallLetters after) =
      (p.searchFrom before after).map Cursor.small := by
  have here : ∀ before after, p.run some ⟨smallLetters before, smallLetters after, none⟩ =
      (p.run some ⟨before, after, none⟩).map Cursor.small := by
    intro before after
    rw [run_some_eq_head?, run_some_eq_head?, ← List.head?_map, ← ends_small ignores]
    rfl
  induction after generalizing before with
  | nil => exact here before []
  | cons x rest induction =>
      have further := induction (x :: before)
      have now := here before (x :: rest)
      simp only [smallLetters, List.map_cons] at further now ⊢
      rw [searchFrom_cons, searchFrom_cons, now, further, Option.map_or]

theorem occursIn_small (ignores : p.ignoresCase = true) (text : List Char) :
    p.occursIn (smallLetters text) = p.occursIn text := by
  have found : p.search (smallLetters text) = (p.search text).map Cursor.small :=
    searchFrom_small ignores [] text
  rw [occursIn, occursIn, found, Option.isSome_map]

end Pattern

theorem extendFirst_smallLetters (c : Char) (parts : List (List Char)) :
    extendFirst c.toLower (parts.map smallLetters) = (extendFirst c parts).map smallLetters := by
  cases parts <;> rfl

theorem lines_smallLetters (text : List Char) :
    lines (smallLetters text) = (lines text).map smallLetters := by
  induction text with
  | nil => rfl
  | cons c rest induction =>
      have ends : (c.toLower == '\n') = (c == '\n') :=
        apply_toLower (· == '\n') (by decide) c
      change split '\n' (c.toLower :: smallLetters rest) = (split '\n' (c :: rest)).map smallLetters
      by_cases breaks : c = '\n'
      · subst breaks
        exact congrArg ([] :: ·) induction
      · have inside : c.toLower ≠ '\n' := by simpa [breaks] using ends
        rw [split_cons_of_ne inside, split_cons_of_ne breaks, ← extendFirst_smallLetters]
        exact congrArg (extendFirst c.toLower) induction

end LineLint
