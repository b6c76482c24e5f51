import LineLint.Proofs.Pattern.Reads

namespace LineLint.Pattern

def Refines (p q : Pattern) : Prop :=
  ∀ before taken after kept, p.Reads before taken after kept → q.Reads before taken after kept

namespace Refines

variable {p q r s : Pattern} {text : List Char}

theorem refl (p : Pattern) : p.Refines p := fun _ _ _ _ reads => reads

theorem append (first : p.Refines q) (second : r.Refines s) : (p ++ r).Refines (q ++ s) := by
  rintro before _ after _ ⟨leading, trailing, rfl, early, late, rfl, reads, follows⟩
  exact ⟨leading, trailing, rfl, early, late, rfl, first _ _ _ _ reads, second _ _ _ _ follows⟩

theorem of_or (left : p.Refines r) (right : q.Refines r) : (p ||| q).Refines r := by
  intro before taken after kept reads
  cases reads with
  | inl reads => exact left _ _ _ _ reads
  | inr reads => exact right _ _ _ _ reads

theorem wordEdge_append (p : Pattern) : (wordEdge ++ p).Refines p := by
  rintro before _ after _ ⟨_, taken, rfl, _, late, rfl, ⟨-, rfl, rfl⟩, reads⟩
  rw [List.append_nil] at reads
  rwa [List.nil_append, Option.or_none]

theorem chars_of_contains {spell wider : Char → CharSet} {token : List Char}
    (contained : ∀ x c, (spell x).contains c = true → (wider x).contains c = true) :
    (chars spell token).Refines (chars wider token) := by
  intro before taken after kept reads
  rw [reads_chars_iff] at reads ⊢
  exact ⟨reads.1.imp contained, reads.2⟩

theorem lit_litAnyCase (token : String) : (lit token).Refines (litAnyCase token) := by
  apply chars_of_contains
  intro x c same
  obtain rfl : c = x := eq_of_beq same
  exact (CharSet.contains_anyCase c c).trans (beq_self_eq_true _)

theorem lit_anyOf {token : String} {texts : List String} (listed : token ∈ texts) :
    (lit token).Refines (anyOf texts) := by
  intro before taken after kept reads
  obtain ⟨same, rfl⟩ := reads_lit.mp reads
  exact reads_anyOf.mpr ⟨⟨token, listed, same⟩, rfl⟩

theorem someUpTo_upTo (stops : List Char) : (someUpTo stops).Refines (upTo stops) := by
  intro before taken after kept reads
  obtain ⟨spans, -, rfl⟩ := reads_atLeastOne.mp reads
  exact reads_upTo.mpr ⟨spans, rfl⟩

theorem occursIn (refines : p.Refines q) (occurs : p.occursIn text = true) :
    q.occursIn text = true := by
  obtain ⟨before, taken, after, kept, whole, reads⟩ := occursIn_iff_reads.mp occurs
  exact occursIn_iff_reads.mpr ⟨before, taken, after, kept, whole, refines _ _ _ _ reads⟩

end Refines

end LineLint.Pattern
