import LineLint.Proofs.Pattern.Match
import LineLint.Rule
import Mathlib.Data.List.Basic

namespace LineLint

namespace Rule

theorem applies_of_veto_eq_none {rule : Rule} (unvetoed : rule.veto = none) (line : Line) :
    rule.applies line = rule.pattern.occursIn (rule.subject line) := by
  rw [applies, vetoed, unvetoed]
  exact Bool.and_true _

theorem applies_iff_of_veto_lit {rule : Rule} {token : String} {line : Line}
    (vetoes : rule.veto = some (.lit token)) :
    rule.applies line = true ↔
      rule.pattern.occursIn (rule.subject line) = true ∧ ¬ token.toList <:+: line := by
  rw [applies, Bool.and_eq_true, Bool.not_eq_true', ← Bool.not_eq_true, vetoed, vetoes,
    Option.any_some, Pattern.occursIn_lit]

variable (number : Nat) (line : Line)

theorem check_singleton (rule : Rule) :
    Rule.check [rule] number line =
      if rule.applies line then [rule.toNotice.at number line] else [] := by
  rw [Rule.check, List.filter_cons, List.filter_nil]
  split <;> rfl

theorem check_singleton_iff {rule : Rule} {line : Line} {holds : Prop}
    (applies : rule.applies line = true ↔ holds) (number : Nat) :
    (holds ↔ Rule.check [rule] number line = [rule.toNotice.at number line]) ∧
      (¬ holds ↔ Rule.check [rule] number line = []) := by
  rw [check_singleton, ← applies]
  split
  next applied => exact ⟨iff_of_true applied rfl, iff_of_false (not_not_intro applied) (by simp)⟩
  next silent => exact ⟨iff_of_false silent (by simp), iff_of_true silent rfl⟩

theorem mem_check_iff {number : Nat} {line : Line} {table : List Rule} {finding : Finding} :
    finding ∈ Rule.check table number line ↔
      ∃ rule ∈ table, rule.applies line = true ∧ finding = rule.toNotice.at number line := by
  simp only [Rule.check, List.mem_map, List.mem_filter, and_assoc, @eq_comm _ finding]

section

variable {number : Nat} {line : Line} {table : List Rule} {asked : Finding → Bool}

theorem filter_check_eq_self
    (all : ∀ rule ∈ table, asked (rule.toNotice.at number line) = true) :
    (Rule.check table number line).filter asked = Rule.check table number line := by
  rw [List.filter_eq_self]
  intro finding member
  obtain ⟨rule, listed, -, rfl⟩ := mem_check_iff.mp member
  exact all rule listed

theorem filter_check_eq_nil
    (none : ∀ rule ∈ table, asked (rule.toNotice.at number line) = false) :
    (Rule.check table number line).filter asked = [] := by
  rw [List.filter_eq_nil_iff]
  intro finding member
  obtain ⟨rule, listed, -, rfl⟩ := mem_check_iff.mp member
  rw [none rule listed]
  exact Bool.false_ne_true

end

theorem filter_check (asked : String → Bool) (table : List Rule) :
    (Rule.check table number line).filter (fun finding => asked finding.message) =
      Rule.check (table.filter (asked ·.message)) number line := by
  rw [Rule.check, Rule.check, List.filter_map, List.filter_comm]
  rfl

theorem filter_message_check {asked : String → Bool} {table : List Rule}
    (none : ∀ rule ∈ table, asked rule.message = false) :
    (Rule.check table number line).filter (fun finding => asked finding.message) = [] :=
  filter_check_eq_nil none

end Rule

theorem Notice.filter_message_ite_at {asked : String → Bool} {notice : Notice} {number : Nat}
    {line : Line} {reported : Prop} [Decidable reported] (unasked : asked notice.message = false) :
    (if reported then [notice.at number line] else []).filter
      (fun finding => asked finding.message) = [] := by
  split <;> simp [unasked]

end LineLint
