import LineLint.Text.Case
import Mathlib.Data.List.Forall2

namespace LineLint

/-- The letters beyond ASCII that equal an ASCII letter when case is ignored: the long s, the Kelvin
sign, the capital i with a dot and the small i without one. -/
def formsBeyondAscii : List (Char × Char) :=
  [(Char.ofNat 0x17F, 's'), (Char.ofNat 0x212A, 'k'), (Char.ofNat 0x130, 'i'),
    (Char.ofNat 0x131, 'i')]

/-- The character equals the ASCII character `x` when case is ignored. -/
def IsFormOf (x c : Char) : Prop :=
  c = x.toLower ∨ c = x.toUpper ∨ (c, x.toLower) ∈ formsBeyondAscii

/-- A text in some mixture of the forms of its characters. -/
def IsSpelling (text spelled : List Char) : Prop := List.Forall₂ IsFormOf text spelled

theorem ascii_cases {c : Char} (ascii : c.toNat < 128) :
    c.toLower.toNat < 128 ∧ c.toLower.toLower = c.toLower ∧ c.toUpper.toLower = c.toLower ∧
      c.toUpper.toNat < 128 ∧ c.toLower.toUpper = c.toUpper ∧ (c = c.toLower ∨ c = c.toUpper) := by
  have each : ∀ n < 128,
      let c := Char.ofNat n
      c.toLower.toNat < 128 ∧ c.toLower.toLower = c.toLower ∧ c.toUpper.toLower = c.toLower ∧
        c.toUpper.toNat < 128 ∧ c.toLower.toUpper = c.toUpper ∧
        (c = c.toLower ∨ c = c.toUpper) := by decide +kernel
  simpa only [Char.ofNat_toNat] using each c.toNat ascii

theorem toLower_eq_toLower_iff {c x : Char} (ascii : c.toNat < 128) (other : x.toNat < 128) :
    c.toLower = x.toLower ↔ c = x.toLower ∨ c = x.toUpper := by
  obtain ⟨-, -, -, -, raised, forms⟩ := ascii_cases ascii
  obtain ⟨-, lower, upper, -, otherRaised, -⟩ := ascii_cases other
  constructor
  · intro same
    rwa [← raised, same, otherRaised] at forms
  · rintro (rfl | rfl)
    · exact lower
    · exact upper

theorem le_of_mem_formsBeyondAscii {c letter : Char} (member : (c, letter) ∈ formsBeyondAscii) :
    128 ≤ c.toNat ∧ foldCase c = letter := by
  have each : ∀ entry ∈ formsBeyondAscii, 128 ≤ entry.1.toNat ∧ foldCase entry.1 = entry.2 := by
    decide
  exact each _ member

theorem mem_formsBeyondAscii {c letter : Char} (beyond : 128 ≤ c.toNat) (ascii : letter.toNat < 128)
    (same : foldCase c = letter) : (c, letter) ∈ formsBeyondAscii := by
  have code : ∀ {n}, c.toNat = n → c = Char.ofNat n := by
    rintro _ rfl
    exact (Char.ofNat_toNat c).symm
  rw [foldCase, if_neg (Nat.not_lt.mpr beyond)] at same
  split at same
  next long =>
    rw [code long, ← same]
    decide
  next =>
    split at same
    next kelvin =>
      rw [code kelvin, ← same]
      decide
    next =>
      split at same
      next dotted =>
        rw [Bool.or_eq_true, decide_eq_true_iff, decide_eq_true_iff] at dotted
        rcases dotted with capital | small
        · rw [code capital, ← same]
          decide
        · rw [code small, ← same]
          decide
      next =>
        subst same
        omega

/-- Characters that are compared without regard to case are equal to an ASCII one in its forms. -/
theorem foldCase_eq_foldCase_iff {c x : Char} (ascii : x.toNat < 128) :
    foldCase c = foldCase x ↔ IsFormOf x c := by
  obtain ⟨lower, -, -, upper, -, -⟩ := ascii_cases ascii
  have folded : foldCase x = x.toLower := if_pos ascii
  rw [folded]
  rcases Nat.lt_or_ge c.toNat 128 with inside | beyond
  · have kept : foldCase c = c.toLower := if_pos inside
    rw [kept, toLower_eq_toLower_iff inside ascii, IsFormOf, ← or_assoc, iff_self_or]
    intro member
    have := (le_of_mem_formsBeyondAscii member).1
    omega
  · constructor
    · intro same
      exact .inr (.inr (mem_formsBeyondAscii beyond lower same))
    · rintro (rfl | rfl | member)
      · omega
      · omega
      · exact (le_of_mem_formsBeyondAscii member).2

theorem isSpelling_iff {text : List Char} (ascii : ∀ x ∈ text, x.toNat < 128)
    {spelled : List Char} :
    IsSpelling text spelled ↔ List.Forall₂ (fun x c => foldCase c = foldCase x) text spelled := by
  induction text generalizing spelled with
  | nil => rw [IsSpelling, List.forall₂_nil_left_iff, List.forall₂_nil_left_iff]
  | cons x text induction =>
      simp only [List.mem_cons, forall_eq_or_imp] at ascii
      simp only [IsSpelling, List.forall₂_cons_left_iff, foldCase_eq_foldCase_iff ascii.1,
        ← induction ascii.2]

end LineLint
