import LineLint.Text.Blank
import LineLint.Text.Word
import Mathlib.Data.List.TakeWhile

namespace LineLint

def blankCodes : List Nat :=
  List.range' 9 5 ++ List.range' 28 5 ++ [0x85, 0xA0, 0x1680] ++ List.range' 0x2000 11 ++
    [0x2028, 0x2029, 0x202F, 0x205F, 0x3000]

theorem isBlank_iff {c : Char} : isBlank c = true ↔ c.toNat ∈ blankCodes := by
  simp only [isBlank, blankCodes, Bool.or_eq_true, Bool.and_eq_true, decide_eq_true_eq, beq_iff_eq,
    List.mem_append, List.mem_range'_1, List.mem_cons, List.not_mem_nil, or_false]
  omega

theorem isWordChar_of_isBlank {c : Char} (blank : isBlank c = true) : isWordChar c = false := by
  have apart : ∀ code ∈ blankCodes, isWordChar (Char.ofNat code) = false := by decide +kernel
  rw [← Char.ofNat_toNat c]
  exact apart c.toNat (isBlank_iff.mp blank)

theorem exists_eq_stripLeft (text : List Char) :
    ∃ lead, text = lead ++ stripLeft text ∧ ∀ c ∈ lead, isBlank c = true :=
  ⟨text.takeWhile isBlank, List.takeWhile_append_dropWhile.symm, fun _ => List.mem_takeWhile_imp⟩

theorem exists_eq_stripRight (text : List Char) :
    ∃ trail, text = stripRight text ++ trail ∧ ∀ c ∈ trail, isBlank c = true := by
  obtain ⟨trail, right, blank⟩ := exists_eq_stripLeft text.reverse
  refine ⟨trail.reverse, ?_, fun c member => blank c (List.mem_reverse.mp member)⟩
  rw [stripRight, ← List.reverse_append, ← right, List.reverse_reverse]

theorem exists_eq_strip (text : List Char) :
    ∃ lead trail, text = lead ++ strip text ++ trail ∧
      (∀ c ∈ lead, isBlank c = true) ∧ ∀ c ∈ trail, isBlank c = true := by
  obtain ⟨lead, left, blankLead⟩ := exists_eq_stripLeft text
  obtain ⟨trail, right, blankTrail⟩ := exists_eq_stripRight (stripLeft text)
  refine ⟨lead, trail, ?_, blankLead, blankTrail⟩
  rw [List.append_assoc, strip, ← right]
  exact left

theorem isBlank_of_mem_head?_strip {text : List Char} {first : Char}
    (starts : first ∈ (strip text).head?) : isBlank first = false := by
  obtain ⟨trail, right, -⟩ := exists_eq_stripRight (stripLeft text)
  have left : (text.dropWhile isBlank).head? = some first := by
    change (stripLeft text).head? = some first
    rw [right, List.head?_append]
    change (strip text).head?.or trail.head? = some first
    rw [Option.mem_def.mp starts, Option.some_or]
  have stops := List.head?_dropWhile_not isBlank text
  rw [left] at stops
  exact stops

theorem eq_nil_of_strip_eq_append {text before trail : List Char}
    (same : strip text = before ++ trail) (blank : ∀ c ∈ trail, isBlank c = true) : trail = [] := by
  cases final : trail.getLast? with
  | none => exact List.getLast?_eq_none_iff.mp final
  | some last =>
      have stops := List.head?_dropWhile_not isBlank (stripLeft text).reverse
      have ends : (strip text).getLast? = some last := by
        rw [same, List.getLast?_append, final, Option.some_or]
      rw [strip, stripRight, List.getLast?_reverse] at ends
      change ((stripLeft text).reverse.dropWhile isBlank).head? = some last at ends
      rw [ends] at stops
      exact absurd (blank last (List.mem_of_getLast? final)) (Bool.eq_false_iff.mp stops)

theorem count_strip {x : Char} (solid : isBlank x = false) (text : List Char) :
    (strip text).count x = text.count x := by
  obtain ⟨lead, trail, whole, blankLead, blankTrail⟩ := exists_eq_strip text
  have absent : ∀ {part : List Char}, (∀ c ∈ part, isBlank c = true) → part.count x = 0 := by
    intro part blank
    rw [List.count_eq_zero]
    intro member
    rw [blank x member] at solid
    cases solid
  rw [congrArg (List.count x) whole]
  simp [absent blankLead, absent blankTrail]

end LineLint
