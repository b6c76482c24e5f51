import LineLint.Scan

namespace LineLint

section

variable {check other : LineCheck} {number : Nat} {all more : List Line}

theorem scanFrom_congr
    (same : ∀ line ∈ all, ∀ number rest, check number line rest = other number line rest) :
    scanFrom check number all = scanFrom other number all := by
  induction all generalizing number with
  | nil => rfl
  | cons line rest induction =>
      simp only [List.mem_cons, forall_eq_or_imp] at same
      rw [scanFrom_cons, scanFrom_cons, same.1, induction same.2]

theorem scanFrom_append (single : Nat → Line → List Finding) :
    scanFrom (fun number line _ => single number line) number (all ++ more) =
      scanFrom (fun number line _ => single number line) number all ++
        scanFrom (fun number line _ => single number line) (number + all.length) more := by
  induction all generalizing number with
  | nil => rfl
  | cons line rest induction =>
      have reached : number + 1 + rest.length = number + (line :: rest).length := by
        rw [List.length_cons]
        omega
      rw [List.cons_append, scanFrom_cons, scanFrom_cons, induction, reached, List.append_assoc]

end

namespace Machine

variable {σ : Type} {machine : Machine σ}

/-- The machine looks at one line after the one it reads, and it finds no less if there is one. -/
structure Extends (machine : Machine σ) : Prop where
  near : ∀ state number line next rest more,
    machine.step state number line (next :: rest ++ more) =
      machine.step state number line (next :: rest)
  last : ∀ state number line more,
    (machine.step state number line []).2 <+: (machine.step state number line more).2

theorem Extends.runFrom_prefix (extends_ : machine.Extends) (state : σ) (number : Nat)
    (all more : List Line) :
    machine.runFrom state number all <+: machine.runFrom state number (all ++ more) := by
  induction all generalizing state number with
  | nil => exact List.nil_prefix
  | cons line rest induction =>
      cases rest with
      | nil =>
          have found := extends_.last state number line more
          rw [List.singleton_append, runFrom_cons, runFrom_cons, runFrom, List.append_nil]
          exact found.trans (List.prefix_append _ _)
      | cons next rest =>
          rw [List.cons_append, runFrom_cons _ _ _ line (next :: rest),
            runFrom_cons _ _ _ line (next :: rest ++ more), extends_.near]
          exact (List.prefix_append_right_inj _).mpr (induction _ _)

theorem Extends.run_prefix (extends_ : machine.Extends) (text more : List Char) :
    machine.run text <+: machine.run (text ++ '\n' :: more) := by
  rw [run, run, lines_append]
  exact extends_.runFrom_prefix _ 1 _ _

end Machine

end LineLint
