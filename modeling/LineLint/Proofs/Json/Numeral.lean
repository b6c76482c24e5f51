import LineLint.Json.Read
import Mathlib.Data.List.Basic
import Mathlib.Data.List.TakeDrop

namespace LineLint.Json

theorem isDigit_iff {p : CodePoint} : isDigit p = true ↔ 48 ≤ p.toNat ∧ p.toNat ≤ 57 := by
  rw [isDigit, Bool.and_eq_true, decide_eq_true_eq, decide_eq_true_eq]

theorem isDigit_of_mem_toDigits {n : Nat} {c : Char} (member : c ∈ Nat.toDigits 10 n) :
    isDigit (.char c) = true :=
  isDigit_iff.mpr
    (Char.isDigit_iff_toNat.mp (Nat.isDigit_of_mem_toDigits (by decide) (by decide) member))

theorem isDigit_of_mem_codePoints {n : Nat} {p : CodePoint}
    (member : p ∈ codePoints (Nat.toDigits 10 n)) : isDigit p = true := by
  obtain ⟨c, digit, rfl⟩ := List.mem_map.mp member
  exact isDigit_of_mem_toDigits digit

theorem toList_toString_ofNat (n : Nat) :
    (toString (Int.ofNat n)).toList = Nat.toDigits 10 n := by
  change (toString n).toList = _
  rw [Nat.toString_eq_repr, Nat.toList_repr]

theorem toList_toString_negSucc (n : Nat) :
    (toString (Int.negSucc n)).toList = '-' :: Nat.toDigits 10 (n + 1) := by
  change ("-" ++ toString (n + 1)).toList = _
  rw [String.toList_append, Nat.toString_eq_repr, Nat.toList_repr]
  rfl

theorem head?_toDigits {n : Nat} (positive : 0 < n) : (Nat.toDigits 10 n).head? ≠ some '0' := by
  induction n using Nat.strongRecOn with
  | ind n induction =>
      rw [Nat.toDigits_eq_if (by decide)]
      split
      next small =>
        have single : ∀ m < 10, 0 < m → [m.digitChar].head? ≠ some '0' := by decide
        exact single n small positive
      next large =>
        rw [List.head?_append_of_ne_nil _ Nat.toDigits_ne_nil]
        exact induction _ (by omega) (by omega)

theorem digitsValue_toDigits (n : Nat) : digitsValue 0 (codePoints (Nat.toDigits 10 n)) = n := by
  calc digitsValue 0 (codePoints (Nat.toDigits 10 n))
      = Nat.ofDigitChars 10 (Nat.toDigits 10 n) 0 := by
        simp only [digitsValue, codePoints, List.foldl_map, Nat.ofDigitChars_eq_foldl, Nat.mul_comm]
        rfl
    _ = n := Nat.ofDigitChars_ten_toDigits

/-- An integer that has no more digits than are read. -/
def IsShort (limit : Option Nat) (n : Int) : Prop :=
  ∀ most ∈ limit, (Nat.toDigits 10 n.natAbs).length ≤ most

theorem isShort_none (n : Int) : IsShort none n := nofun

/-- A text that no number goes on into. -/
def Stops (text : List CodePoint) : Prop :=
  ∀ p ∈ text.head?, isDigit p = false ∧ p ≠ .char '.' ∧ p ≠ .char 'e' ∧ p ≠ .char 'E'

theorem stops_nil : Stops [] := by
  intro c head
  cases head

theorem stops_cons {c : Char} (closes : c ∈ [',', ']', '}', ' ', '\t', '\n', '\r'])
    (rest : List CodePoint) : Stops (.char c :: rest) := by
  rintro _ ⟨⟩
  revert c
  simp [isDigit, CodePoint.toNat]

section

variable {rest : List CodePoint} (stops : Stops rest)

include stops

theorem span_digits {digits : List CodePoint} (all : ∀ c ∈ digits, isDigit c = true) :
    (digits ++ rest).span isDigit = (digits, rest) := by
  rw [List.span_eq_takeWhile_dropWhile, List.takeWhile_append_of_pos all,
    List.dropWhile_append_of_pos all]
  cases rest with
  | nil => simp
  | cons c rest =>
      have other := (stops c rfl).1
      simp [other]

theorem wholeDigits?_toDigits (n : Nat) :
    wholeDigits? (codePoints (Nat.toDigits 10 n) ++ rest) =
      some (codePoints (Nat.toDigits 10 n), rest) := by
  rcases Nat.eq_zero_or_pos n with rfl | positive
  · rfl
  · have spanned := span_digits stops fun p => isDigit_of_mem_codePoints (n := n)
    have first := head?_toDigits positive
    obtain ⟨c, digits, written⟩ := List.exists_cons_of_ne_nil (Nat.toDigits_ne_nil (n := n))
    have digit : isDigit (.char c) = true := isDigit_of_mem_toDigits (written ▸ List.mem_cons_self)
    rw [written] at spanned first ⊢
    rw [codePoints_cons, List.cons_append] at spanned ⊢
    rw [wholeDigits?, if_pos digit]
    · exact congrArg some spanned
    · rintro ⟨⟩
      exact first rfl

theorem fractionDigits_of_stops : fractionDigits rest = ([], rest) := by
  unfold fractionDigits
  split
  next => exact absurd rfl (stops (.char '.') rfl).2.1
  next => rfl

theorem exponent?_of_stops : exponent? rest = none := by
  unfold exponent?
  split
  next p more =>
    obtain ⟨-, -, lower, upper⟩ := stops p rfl
    simp [lower, upper]
  next => rfl

theorem readUnsigned?_toDigits (negative : Bool) {limit : Option Nat} {n : Nat}
    (short : ∀ most ∈ limit, (Nat.toDigits 10 n).length ≤ most) :
    readUnsigned? limit negative (codePoints (Nat.toDigits 10 n) ++ rest) =
      some (.ok (.integer (if negative then -(n : Int) else n), rest)) := by
  have kept : ¬ limit.any (· < (codePoints (Nat.toDigits 10 n)).length) = true := by
    rw [Option.any_eq_true]
    rintro ⟨most, limited, passed⟩
    rw [codePoints, List.length_map, decide_eq_true_eq] at passed
    exact Nat.not_lt.mpr (short most limited) passed
  simp only [readUnsigned?, wholeDigits?_toDigits stops, bind, Option.bind,
    fractionDigits_of_stops stops, exponent?_of_stops stops, readInteger, if_neg kept,
    digitsValue_toDigits]
  rfl

end

theorem readNamed?_of_digit {text : List CodePoint} {p : CodePoint} (early : p ∈ text.take 2)
    (digit : isDigit p = true) : readNamed? text = none := by
  have wordy : ∀ entry ∈ named, 2 ≤ (codePoints entry.1.toList).length ∧
      ∀ p ∈ (codePoints entry.1.toList).take 2, isDigit p = false := by
    simp [named, isDigit, CodePoint.toNat]
  apply List.findSome?_eq_none_iff.mpr
  intro entry listed
  apply if_neg
  rw [List.isPrefixOf_iff_prefix]
  rintro ⟨more, rfl⟩
  obtain ⟨long, letters⟩ := wordy entry listed
  rw [List.take_append_of_le_length long] at early
  rw [letters p early] at digit
  cases digit

section

variable {rest : List CodePoint} (stops : Stops rest)

include stops

theorem readScalar_toDigits {limit : Option Nat} {n : Nat}
    (short : ∀ most ∈ limit, (Nat.toDigits 10 n).length ≤ most) :
    readScalar limit (codePoints (Nat.toDigits 10 n) ++ rest) = .ok (.integer n, rest) ∧
      readScalar limit (.char '-' :: codePoints (Nat.toDigits 10 n) ++ rest) =
        .ok (.integer (-n), rest) := by
  have plain := readUnsigned?_toDigits stops false short
  have negative := readUnsigned?_toDigits stops true short
  obtain ⟨c, digits, written⟩ := List.exists_cons_of_ne_nil (Nat.toDigits_ne_nil (n := n))
  have digit : isDigit (.char c) = true := isDigit_of_mem_toDigits (written ▸ List.mem_cons_self)
  rw [written, codePoints_cons] at plain negative ⊢
  constructor
  · have unsigned : CodePoint.char c ≠ .char '-' := by
      rintro ⟨⟩
      cases digit
    rw [readScalar, readNamed?_of_digit List.mem_cons_self digit]
    simp only [readNumber]
    split
    next signed => exact absurd (List.cons.inj signed).1 unsigned
    next => rw [plain]; rfl
  · rw [readScalar, readNamed?_of_digit (.tail _ List.mem_cons_self) digit]
    rw [List.cons_append]
    simp only [readNumber, negative]
    rfl

theorem readScalar_integer {limit : Option Nat} {n : Int} (short : IsShort limit n) :
    readScalar limit (codePoints (toString n).toList ++ rest) = .ok (.integer n, rest) := by
  cases n with
  | ofNat n =>
      rw [toList_toString_ofNat]
      exact (readScalar_toDigits stops short).1
  | negSucc n =>
      rw [toList_toString_negSucc]
      exact (readScalar_toDigits stops short).2

end

end LineLint.Json
