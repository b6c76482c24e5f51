namespace LineLint

/-- Of the lines up to line `number`, line `start` is the last one of which `holds` is true. -/
structure Latest (holds : Nat → Prop) (number start : Nat) : Prop where
  first : 1 ≤ start
  reached : start ≤ number
  held : holds start
  latest : ∀ later, start < later → later ≤ number → ¬ holds later

namespace Latest

variable {holds : Nat → Prop} {number later start first second : Nat}

theorem of_holds (held : holds (number + 1)) : Latest holds (number + 1) (number + 1) :=
  ⟨Nat.le_add_left 1 number, Nat.le_refl _, held, fun later after upTo => by omega⟩

theorem succ (last : Latest holds number start) (quiet : ¬ holds (number + 1)) :
    Latest holds (number + 1) start where
  first := last.first
  reached := Nat.le_succ_of_le last.reached
  held := last.held
  latest := fun later after upTo => by
    rcases Nat.lt_or_eq_of_le upTo with earlier | rfl
    · exact last.latest later after (Nat.le_of_lt_succ earlier)
    · exact quiet

/-- One line more: either it is the last one, or it makes no difference. -/
theorem eq_or_of_succ (last : Latest holds (number + 1) start) :
    start = number + 1 ∨ ¬ holds (number + 1) ∧ Latest holds number start := by
  rcases Nat.lt_or_eq_of_le last.reached with earlier | same
  · refine .inr ⟨last.latest _ earlier (Nat.le_refl _), last.first, Nat.le_of_lt_succ earlier,
      last.held, ?_⟩
    exact fun later after upTo => last.latest later after (Nat.le_succ_of_le upTo)
  · exact .inl same

theorem unique (one : Latest holds number first) (other : Latest holds number second) :
    first = second := by
  rcases Nat.lt_trichotomy first second with before | same | after
  · exact absurd other.held (one.latest second before other.reached)
  · exact same
  · exact absurd one.held (other.latest first after one.reached)

theorem mono (one : Latest holds number first) (other : Latest holds later second)
    (order : number ≤ later) : first ≤ second := by
  rw [← Nat.not_lt]
  intro after
  exact other.latest first after (Nat.le_trans one.reached order) one.held

end Latest

theorem exists_latest {holds : Nat → Prop} {number line : Nat} (first : 1 ≤ line)
    (upTo : line ≤ number) (held : holds line) : ∃ start, Latest holds number start := by
  induction number with
  | zero => omega
  | succ number induction =>
      by_cases here : holds (number + 1)
      · exact ⟨number + 1, .of_holds here⟩
      · rcases Nat.lt_or_eq_of_le upTo with earlier | rfl
        · obtain ⟨start, last⟩ := induction (Nat.le_of_lt_succ earlier)
          exact ⟨start, last.succ here⟩
        · exact absurd held here

end LineLint
