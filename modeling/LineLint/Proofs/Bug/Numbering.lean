import LineLint.Bug
import Mathlib.Data.List.Forall2

namespace LineLint

theorem Finding.identify_of_le {finding : Finding} (valid : 1 ≤ finding.line) (id : String) :
    finding.identify id = .ok { finding with id, line_pos := valid } := by
  simp only [identify]
  rw [dif_pos valid]

/-- Each identifier is made of the bug's line and its place in the list, counted from `first`. -/
def Numbered (language : String) (first : Nat) (bugs : List Bug) : Prop :=
  ∀ entry ∈ bugs.zipIdx first, entry.1.id = bugId language entry.1.line entry.2

theorem Register.exists_enterAll {findings : List Finding}
    (valid : ∀ finding ∈ findings, 1 ≤ finding.line) (register : Register) :
    ∃ bugs, register.enterAll findings = .ok bugs ∧ bugs.map Bug.toFinding = findings ∧
      Numbered register.language register.issued bugs := by
  induction findings generalizing register with
  | nil =>
      refine ⟨[], rfl, rfl, ?_⟩
      intro entry member
      cases member
  | cons finding rest induction =>
      simp only [List.mem_cons, forall_eq_or_imp] at valid
      obtain ⟨bugs, entered, findings, numbered⟩ :=
        induction valid.2 (register.enter finding).1
      let bug : Bug :=
        { finding with
          id := bugId register.language finding.line register.issued
          line_pos := valid.1 }
      have identified : (register.enter finding).2 = .ok bug := Finding.identify_of_le valid.1 _
      refine ⟨bug :: bugs, ?_, ?_, ?_⟩
      · rw [enterAll, identified, entered]
        rfl
      · rw [List.map_cons, findings]
      · intro entry member
        rw [List.zipIdx_cons] at member
        rcases List.mem_cons.mp member with rfl | later
        · rfl
        · exact numbered entry later

theorem exists_numbered {findings : List Finding} (valid : ∀ finding ∈ findings, 1 ≤ finding.line)
    (language : String) :
    ∃ bugs, numbered language findings = .ok bugs ∧ bugs.map Bug.toFinding = findings ∧
      Numbered language 0 bugs :=
  Register.exists_enterAll valid ⟨language, 0⟩

theorem Register.enterAll_append (register : Register) (first second : List Finding) :
    register.enterAll (first ++ second) = do
      let bugs ← register.enterAll first
      let others ← enterAll ⟨register.language, register.issued + first.length⟩ second
      return bugs ++ others := by
  induction first generalizing register with
  | nil =>
      change register.enterAll second = do
        let others ← register.enterAll second
        return [] ++ others
      simp only [List.nil_append, bind_pure]
  | cons finding rest induction =>
      have later : (register.enter finding).1.issued + rest.length =
          register.issued + (finding :: rest).length := by
        rw [List.length_cons, Nat.add_comm rest.length 1, ← Nat.add_assoc]
        rfl
      simp only [List.cons_append, enterAll, induction, later, bind_assoc, pure_bind]
      rfl

theorem exists_numbered_append {first second : List Finding}
    (valid : ∀ finding ∈ first ++ second, 1 ≤ finding.line) (language : String) :
    ∃ bugs others, numbered language first = .ok bugs ∧
      numbered language (first ++ second) = .ok (bugs ++ others) ∧
      bugs.map Bug.toFinding = first ∧ others.map Bug.toFinding = second ∧
      Numbered language first.length others := by
  simp only [List.mem_append, or_imp, forall_and] at valid
  obtain ⟨bugs, entered, findings, -⟩ := exists_numbered valid.1 language
  obtain ⟨others, otherEntered, otherFindings, otherNumbered⟩ :=
    Register.exists_enterAll valid.2 ⟨language, 0 + first.length⟩
  refine ⟨bugs, others, entered, ?_, findings, otherFindings, ?_⟩
  · rw [numbered] at entered ⊢
    rw [Register.enterAll_append, entered, otherEntered]
    rfl
  · simpa using otherNumbered

section

variable {language other : String} {first start : Nat} {bugs others : List Bug}

theorem Numbered.forall₂ {related : Finding → Finding → Prop}
    (numbered : Numbered language first bugs)
    (otherNumbered : Numbered other start others)
    (pairs : List.Forall₂ related (bugs.map Bug.toFinding) (others.map Bug.toFinding)) :
    List.Forall₂ (fun bug again => related bug.toFinding again.toFinding ∧
      ∃ place, bug.id = bugId language bug.line (first + place) ∧
        again.id = bugId other again.line (start + place)) bugs others := by
  rw [List.forall₂_map_left_iff, List.forall₂_map_right_iff] at pairs
  induction pairs generalizing first start with
  | nil => exact .nil
  | cons here later induction =>
      simp only [Numbered, List.zipIdx_cons, List.mem_cons, forall_eq_or_imp] at numbered
      simp only [Numbered, List.zipIdx_cons, List.mem_cons, forall_eq_or_imp] at otherNumbered
      refine .cons ⟨here, 0, numbered.1, otherNumbered.1⟩ ?_
      refine (induction numbered.2 otherNumbered.2).imp ?_
      rintro bug again ⟨pair, place, id, otherId⟩
      refine ⟨pair, place + 1, ?_, ?_⟩
      · rw [id, Nat.add_comm place 1, Nat.add_assoc]
      · rw [otherId, Nat.add_comm place 1, Nat.add_assoc]

end

theorem toList_toString (number : Nat) : (toString number).toList = Nat.toDigits 10 number := by
  rw [Nat.toString_eq_repr, Nat.toList_repr]

theorem toString_injective {first second : Nat} (same : toString first = toString second) :
    first = second := by
  have digits : Nat.toDigits 10 first = Nat.toDigits 10 second := by
    rw [← toList_toString, same, toList_toString]
  calc first = Nat.ofDigitChars 10 (Nat.toDigits 10 first) 0 := Nat.ofDigitChars_ten_toDigits.symm
    _ = Nat.ofDigitChars 10 (Nat.toDigits 10 second) 0 := by rw [digits]
    _ = second := Nat.ofDigitChars_ten_toDigits

theorem hyphen_not_mem_toString (number : Nat) : '-' ∉ (toString number).toList := by
  intro member
  rw [toList_toString] at member
  have digit : ('-').isDigit = true :=
    Nat.isDigit_of_mem_toDigits (Nat.zero_lt_succ 9) (Nat.le_refl 10) member
  revert digit
  decide

theorem takeWhile_reverse_bugId (language : String) (line : Int) (ordinal : Nat) :
    (bugId language line ordinal).toList.reverse.takeWhile (· ≠ '-') =
      (toString ordinal).toList.reverse := by
  simp only [bugId, String.toList_append]
  rw [takeWhile_reverse_append (hyphen_not_mem_toString ordinal)]
  simp

theorem bugId_injective {language other : String} {line otherLine : Int}
    {ordinal otherOrdinal : Nat}
    (same : bugId language line ordinal = bugId other otherLine otherOrdinal) :
    ordinal = otherOrdinal := by
  apply toString_injective
  apply String.toList_inj.mp
  rw [← List.reverse_inj, ← takeWhile_reverse_bugId language line, same, takeWhile_reverse_bugId]

end LineLint
