import LineLint.Scan

namespace LineLint

theorem lineAt_succ (all : List Line) (position : Nat) :
    lineAt all (position + 1 : Nat) = all.getD position [] := rfl

theorem lineAt_of_lt {all : List Line} {position : Nat} (inside : position < all.length) :
    lineAt all (position + 1 : Nat) = all[position] := by
  rw [lineAt_succ]
  simp [inside]

theorem lineAt_of_le {all : List Line} {position : Nat} (beyond : all.length ≤ position) :
    lineAt all (position + 1 : Nat) = [] := by
  rw [lineAt_succ]
  simp [beyond]

def lineNumbers (all : List Line) : List Nat := List.range' 1 all.length

@[simp] theorem mem_lineNumbers {all : List Line} {number : Nat} :
    number ∈ lineNumbers all ↔ 1 ≤ number ∧ number ≤ all.length := by
  rw [lineNumbers, List.mem_range'_1]
  omega

theorem lineAt_of_not_mem {all : List Line} {number : Nat} (outside : number ∉ lineNumbers all) :
    lineAt all number = [] := by
  cases number with
  | zero => rfl
  | succ position =>
      rw [mem_lineNumbers] at outside
      exact lineAt_of_le (by omega)

theorem rising_lineNumbers (all : List Line) : (lineNumbers all).Pairwise (· < ·) :=
  List.pairwise_lt_range' ..

theorem drop_eq_lineAt_cons {all : List Line} {position : Nat} (inside : position < all.length) :
    all.drop position = lineAt all (position + 1 : Nat) :: all.drop (position + 1) := by
  rw [lineAt_of_lt inside]
  exact List.drop_eq_getElem_cons inside

theorem scanFrom_drop (check : LineCheck) (all : List Line) (position : Nat) :
    scanFrom check (position + 1) (all.drop position) =
      (List.range' (position + 1) (all.length - position)).flatMap fun number =>
        check number (lineAt all number) (all.drop number) := by
  induction left : all.length - position generalizing position with
  | zero =>
      rw [List.drop_eq_nil_of_le (Nat.le_of_sub_eq_zero left)]
      rfl
  | succ remaining induction =>
      have inside : position < all.length := by omega
      rw [drop_eq_lineAt_cons inside, scanFrom_cons, induction (position + 1) (by omega),
        List.range'_succ, List.flatMap_cons]

theorem scan_eq_flatMap (check : LineCheck) (text : List Char) :
    scan check text =
      (lineNumbers (lines text)).flatMap fun number =>
        check number (lineAt (lines text) number) ((lines text).drop number) := by
  simpa [scan, lineNumbers] using scanFrom_drop check (lines text) 0

theorem scanRules_eq_flatMap (table : List Rule) (text : List Char) :
    scanRules table text =
      (lineNumbers (lines text)).flatMap fun number =>
        Rule.check table number (lineAt (lines text) number) :=
  scan_eq_flatMap _ text

namespace Machine

variable {σ : Type} (machine : Machine σ)

def stateAfter (all : List Line) : Nat → σ
  | 0 => machine.initial
  | seen + 1 =>
      (machine.step (stateAfter all seen) (seen + 1) (lineAt all (seen + 1 : Nat))
        (all.drop (seen + 1))).1

def reportAt (all : List Line) (number : Nat) : List Finding :=
  (machine.step (machine.stateAfter all (number - 1)) number (lineAt all number)
    (all.drop number)).2

theorem runFrom_drop (all : List Line) (position : Nat) :
    machine.runFrom (machine.stateAfter all position) (position + 1) (all.drop position) =
      (List.range' (position + 1) (all.length - position)).flatMap (machine.reportAt all) := by
  induction left : all.length - position generalizing position with
  | zero =>
      rw [List.drop_eq_nil_of_le (Nat.le_of_sub_eq_zero left)]
      rfl
  | succ remaining induction =>
      have inside : position < all.length := by omega
      rw [drop_eq_lineAt_cons inside, List.range'_succ, List.flatMap_cons,
        ← induction (position + 1) (by omega)]
      rfl

theorem run_eq_flatMap (text : List Char) :
    machine.run text = (lineNumbers (lines text)).flatMap (machine.reportAt (lines text)) := by
  simpa [run, stateAfter, lineNumbers] using machine.runFrom_drop (lines text) 0

/-- What holds at the start and is kept by each line holds after any number of lines. -/
theorem stateAfter_invariant {Holds : Nat → σ → Prop} (all : List Line)
    (start : Holds 0 machine.initial)
    (kept : ∀ seen state, Holds seen state →
      Holds (seen + 1) (machine.step state (seen + 1) (lineAt all (seen + 1 : Nat))
        (all.drop (seen + 1))).1)
    (seen : Nat) : Holds seen (machine.stateAfter all seen) := by
  induction seen with
  | zero => exact start
  | succ seen induction => exact kept seen _ induction

end Machine

end LineLint
