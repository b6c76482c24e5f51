import LineLint.Proofs.Scan.Numbered
import Mathlib.Data.List.Basic

namespace LineLint

def Finding.isOn (number : Nat) (finding : Finding) : Bool := finding.line == number

namespace Finding

variable {number other : Nat} {finding : Finding}

theorem isOn_iff : finding.isOn number = true ↔ finding.line = number := beq_iff_eq

theorem isOn_eq_false_iff : finding.isOn number = false ↔ finding.line ≠ number :=
  beq_eq_false_iff_ne

@[simp] theorem isOn_at {notice : Notice} {line : Line} :
    (notice.at other line).isOn number = decide (other = number) := by
  rw [Bool.eq_iff_iff, isOn_iff, Notice.line_at, decide_eq_true_iff]
  omega

end Finding

theorem flatMap_eq_of_ne_eq_nil {β : Type} {numbers : List Nat} (rising : numbers.Pairwise (· < ·))
    {found : Nat → List β} {number : Nat} (listed : number ∈ numbers)
    (elsewhere : ∀ other ∈ numbers, other ≠ number → found other = []) :
    numbers.flatMap found = found number := by
  induction numbers with
  | nil => cases listed
  | cons first rest induction =>
      obtain ⟨below, rising⟩ := List.pairwise_cons.mp rising
      rw [List.flatMap_cons]
      rcases List.mem_cons.mp listed with rfl | later
      · have nothing : rest.flatMap found = [] := by
          rw [List.flatMap_eq_nil_iff]
          intro other member
          have order := below other member
          exact elsewhere other (List.mem_cons_of_mem _ member) (by omega)
        rw [nothing, List.append_nil]
      · have order := below number later
        rw [elsewhere first List.mem_cons_self (by omega), List.nil_append]
        exact induction rising later fun other member =>
          elsewhere other (List.mem_cons_of_mem _ member)

/-- The line of a number and up to `reach` lines after it. -/
def view (reach : Nat) (all : List Line) (number : Nat) : List Line :=
  (all.drop (number - 1)).take (reach + 1)

theorem view_eq_cons {reach : Nat} {all : List Line} {number : Nat}
    (inside : number ∈ lineNumbers all) :
    view reach all number = lineAt all number :: (all.drop number).take reach := by
  obtain ⟨first, last⟩ := mem_lineNumbers.mp inside
  obtain ⟨position, rfl⟩ := Nat.exists_eq_add_of_le' first
  rw [view, Nat.add_sub_cancel, drop_eq_lineAt_cons last, List.take_succ_cons]

/-- The number of a line that is in view from a line. -/
def InView (reach : Nat) (all : List Line) (number near : Nat) : Prop :=
  near ∈ lineNumbers all ∧ number ≤ near ∧ near ≤ number + reach

section

variable {reach number : Nat} {all : List Line} {line former latter : Line}

theorem getElem?_eq_some_iff_lineAt {position : Nat} :
    all[position]? = some line ↔
      position + 1 ∈ lineNumbers all ∧ line = lineAt all (position + 1 : Nat) := by
  rw [List.getElem?_eq_some_iff, mem_lineNumbers]
  constructor
  · rintro ⟨inside, rfl⟩
    exact ⟨⟨Nat.le_add_left 1 position, inside⟩, (lineAt_of_lt inside).symm⟩
  · rintro ⟨⟨-, inside⟩, rfl⟩
    exact ⟨inside, (lineAt_of_lt inside).symm⟩

theorem getElem?_view (reach number position : Nat) (all : List Line) :
    (view reach all number)[position]? =
      if position ≤ reach then all[number - 1 + position]? else none := by
  rw [view, List.getElem?_take, List.getElem?_drop]
  simp only [Nat.lt_succ_iff]

theorem mem_view_iff (inside : number ∈ lineNumbers all) :
    line ∈ view reach all number ↔
      ∃ near, InView reach all number near ∧ line = lineAt all near := by
  have first := (mem_lineNumbers.mp inside).1
  rw [List.mem_iff_getElem?]
  simp only [getElem?_view, Option.ite_none_right_eq_some, getElem?_eq_some_iff_lineAt]
  constructor
  · rintro ⟨position, upTo, here, rfl⟩
    exact ⟨number - 1 + position + 1, ⟨here, by omega, by omega⟩, rfl⟩
  · rintro ⟨near, ⟨here, low, high⟩, rfl⟩
    obtain ⟨position, rfl⟩ := Nat.exists_eq_add_of_le low
    have place : number - 1 + position + 1 = number + position := by omega
    rw [← place] at here ⊢
    exact ⟨position, by omega, here, rfl⟩

theorem pair_infix_iff {α : Type} {former latter : α} {items : List α} :
    [former, latter] <:+: items ↔
      ∃ position, items[position]? = some former ∧ items[position + 1]? = some latter := by
  constructor
  · rintro ⟨before, after, rfl⟩
    exact ⟨before.length, by simp, by simp⟩
  · rintro ⟨position, here, next⟩
    obtain ⟨inside, rfl⟩ := List.getElem?_eq_some_iff.mp here
    obtain ⟨nextInside, rfl⟩ := List.getElem?_eq_some_iff.mp next
    refine ⟨items.take position, items.drop (position + 2), ?_⟩
    simp

theorem pair_infix_view_iff (inside : number ∈ lineNumbers all) :
    [former, latter] <:+: view reach all number ↔
      ∃ near, InView reach all number near ∧ InView reach all number (near + 1) ∧
        former = lineAt all near ∧ latter = lineAt all (near + 1 : Nat) := by
  have first := (mem_lineNumbers.mp inside).1
  rw [pair_infix_iff]
  simp only [getElem?_view, Option.ite_none_right_eq_some, getElem?_eq_some_iff_lineAt]
  constructor
  · rintro ⟨position, ⟨-, here, rfl⟩, upTo, next, rfl⟩
    exact ⟨number - 1 + position + 1, ⟨here, by omega, by omega⟩, ⟨next, by omega, by omega⟩,
      rfl, rfl⟩
  · rintro ⟨near, ⟨here, low, -⟩, ⟨next, -, high⟩, rfl, rfl⟩
    obtain ⟨position, rfl⟩ := Nat.exists_eq_add_of_le low
    have place : number - 1 + position + 1 = number + position := by omega
    rw [← place] at here next ⊢
    exact ⟨position, ⟨by omega, here, rfl⟩, by omega, next, rfl⟩

end

/-- A finding apart from where it is filed. -/
def Finding.unplaced (finding : Finding) : Finding := { finding with line := 0 }

def IsLocal (reach : Nat) (check : LineCheck) : Prop :=
  ∃ choose : Line → List Line → List Notice, ∀ number line rest,
    check number line rest = (choose line (rest.take reach)).map (·.at number line)

section

variable {reach : Nat} {check : LineCheck}

theorem isLocal_check (reach : Nat) (table : List Rule) :
    IsLocal reach fun number line _ => Rule.check table number line := by
  refine ⟨fun line _ => (table.filter (·.applies line)).map Rule.toNotice, ?_⟩
  intro number line rest
  dsimp only
  rw [Rule.check, List.map_map]
  rfl

theorem isLocal_ite_at {reports : Line → List Line → Bool} (notice : Notice)
    (near : ∀ line rest, reports line (rest.take reach) = reports line rest) :
    IsLocal reach fun number line rest =>
      if reports line rest then [notice.at number line] else [] := by
  refine ⟨fun line next => if reports line next then [notice] else [], ?_⟩
  intro number line rest
  dsimp only
  rw [near]
  split <;> rfl

theorem IsLocal.append {other : LineCheck} (first : IsLocal reach check)
    (second : IsLocal reach other) :
    IsLocal reach fun number line rest => check number line rest ++ other number line rest := by
  obtain ⟨choose, chosen⟩ := first
  obtain ⟨select, selected⟩ := second
  refine ⟨fun line next => choose line next ++ select line next, ?_⟩
  intro number line rest
  dsimp only
  rw [chosen, selected, List.map_append]

namespace IsLocal

variable (isLocal : IsLocal reach check)

include isLocal

theorem filter_isOn {number : Nat} (line : Line) (rest : List Line) :
    (check number line rest).filter (·.isOn number) = check number line rest := by
  obtain ⟨choose, chosen⟩ := isLocal
  rw [chosen, List.filter_eq_self]
  intro finding member
  obtain ⟨notice, -, rfl⟩ := List.mem_map.mp member
  simp

theorem filter_isOn_of_ne {number other : Nat} (elsewhere : other ≠ number) (line : Line)
    (rest : List Line) : (check other line rest).filter (·.isOn number) = [] := by
  obtain ⟨choose, chosen⟩ := isLocal
  rw [chosen, List.filter_eq_nil_iff]
  intro finding member
  obtain ⟨notice, -, rfl⟩ := List.mem_map.mp member
  simpa using elsewhere

theorem filter_isOn_scan {text : List Char} {number : Nat}
    (inside : number ∈ lineNumbers (lines text)) :
    (scan check text).filter (·.isOn number) =
      check number (lineAt (lines text) number) ((lines text).drop number) := by
  rw [scan_eq_flatMap, List.filter_flatMap,
    flatMap_eq_of_ne_eq_nil (rising_lineNumbers _) inside]
  · exact isLocal.filter_isOn _ _
  · intro other _ elsewhere
    exact isLocal.filter_isOn_of_ne elsewhere _ _

theorem unplaced_eq {all others : List Line} {number other : Nat}
    (inside : number ∈ lineNumbers all) (otherInside : other ∈ lineNumbers others)
    (same : view reach all number = view reach others other) :
    (check number (lineAt all number) (all.drop number)).map Finding.unplaced =
      (check other (lineAt others other) (others.drop other)).map Finding.unplaced := by
  rw [view_eq_cons inside, view_eq_cons otherInside] at same
  obtain ⟨sameLine, sameNext⟩ := List.cons.inj same
  obtain ⟨choose, chosen⟩ := isLocal
  rw [chosen, chosen, sameLine, sameNext, List.map_map, List.map_map]
  rfl

end IsLocal

end

section

variable {asked : Finding → Bool} {part : LineCheck}

theorem filter_scan {check : LineCheck}
    (each : ∀ number line rest, (check number line rest).filter asked = part number line rest)
    (text : List Char) : (scan check text).filter asked = scan part text := by
  rw [scan_eq_flatMap, scan_eq_flatMap, List.filter_flatMap]
  apply List.flatMap_congr
  intro number _
  exact each _ _ _

theorem Machine.filter_run {σ : Type} {machine : Machine σ}
    (each : ∀ all number,
      (machine.reportAt all number).filter asked =
        part number (lineAt all number) (all.drop number))
    (text : List Char) : (machine.run text).filter asked = scan part text := by
  rw [run_eq_flatMap, scan_eq_flatMap, List.filter_flatMap]
  apply List.flatMap_congr
  intro number _
  exact each _ _

end

end LineLint
