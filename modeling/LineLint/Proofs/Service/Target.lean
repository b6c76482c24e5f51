import LineLint.Service.Route
import Mathlib.Data.List.TakeWhile

namespace LineLint

theorem split_of_not_mem {separator : Char} {text : List Char} (absent : separator ∉ text) :
    split separator text = [text] := by
  induction text with
  | nil => rfl
  | cons c rest induction =>
      rw [List.mem_cons, not_or] at absent
      rw [split_cons_of_ne (Ne.symm absent.1), induction absent.2]
      rfl

theorem split_append_cons {separator : Char} {first : List Char} (absent : separator ∉ first)
    (rest : List Char) :
    split separator (first ++ separator :: rest) = first :: split separator rest := by
  rw [split_append, split_of_not_mem absent, List.singleton_append]

namespace Service

/-- The character stands for itself in a target. -/
def IsPlain (c : Char) : Prop := c.isAlphanum = true ∨ c = '/'

theorem IsPlain.toNat_range {c : Char} (plain : IsPlain c) :
    47 ≤ c.toNat ∧ c.toNat ≤ 57 ∨ 65 ≤ c.toNat ∧ c.toNat ≤ 90 ∨ 97 ≤ c.toNat ∧ c.toNat ≤ 122 := by
  rcases plain with letter | rfl
  · delta Char.isAlphanum Char.isAlpha Char.isUpper Char.isLower Char.isDigit at letter
    simp only [Bool.or_eq_true, Bool.and_eq_true, decide_eq_true_eq, ge_iff_le,
      UInt32.le_iff_toNat_le] at letter
    have value : c.toNat = c.val.toNat := rfl
    simp at letter
    omega
  · decide

theorem IsPlain.ne {c : Char} (plain : IsPlain c) (other : Char)
    (outside : other.toNat < 47 ∨ 57 < other.toNat ∧ other.toNat < 65) : c ≠ other := by
  rintro rfl
  have := plain.toNat_range
  omega

theorem utf8EncodeChar_of_lt {c : Char} (ascii : c.toNat < 0x80) :
    String.utf8EncodeChar c = [UInt8.ofNat c.toNat] := by
  have value : c.val.toNat = c.toNat := rfl
  simp only [String.utf8EncodeChar, value]
  rw [if_pos (by omega)]

theorem percentDecode_cons {byte : UInt8} (literal : byte ≠ 0x25) (rest : List UInt8) :
    percentDecode (byte :: rest) = byte :: percentDecode rest := by
  match rest with
  | [] => rfl
  | [_] => rfl
  | _ :: _ :: _ => simp [percentDecode, literal]

theorem decode_percentDecode_encode {text : List Char} (plain : ∀ c ∈ text, IsPlain c) :
    Utf8.decode (percentDecode (Utf8.encode text)) = text := by
  induction text with
  | nil => rfl
  | cons c rest induction =>
      rw [List.forall_mem_cons] at plain
      have range := plain.1.toNat_range
      have byte : (UInt8.ofNat c.toNat).toNat = c.toNat := by
        rw [UInt8.toNat_ofNat']
        omega
      have literal : UInt8.ofNat c.toNat ≠ 0x25 := by
        intro same
        rw [same] at byte
        have : (0x25 : UInt8).toNat = 37 := rfl
        omega
      have whole : Utf8.lead c.toNat = .whole c := by
        rw [Utf8.lead, if_pos (by omega), Char.ofNat_toNat]
      rw [Utf8.encode, List.flatMap_cons, utf8EncodeChar_of_lt (by omega), List.singleton_append,
        percentDecode_cons literal, Utf8.decode, Utf8.decodeFrom, byte, whole]
      exact congrArg (c :: ·) (induction plain.2)

def historyPath (id : List Char) : List Char := '/' :: ("history".toList ++ '/' :: id)

section

variable {id : List Char}

theorem resolveDots_historyPath (plain : ∀ c ∈ id, c.isAlphanum = true) :
    resolveDots (historyPath id) = historyPath id := by
  have unbroken : '/' ∉ id := fun member => absurd (plain '/' member) (by decide)
  have dotless : '.' ∉ id := fun member => absurd (plain '.' member) (by decide)
  have one : id ≠ ['.'] := by
    rintro rfl
    simp at dotless
  have two : id ≠ ['.', '.'] := by
    rintro rfl
    simp at dotless
  rw [resolveDots, historyPath, split_cons_self, split_append_cons (by decide),
    split_of_not_mem unbroken]
  simp [resolvePart, one, two, joinWith]

theorem pathOf_historyPath (plain : ∀ c ∈ id, c.isAlphanum = true) :
    pathOf (String.ofList (historyPath id)) = historyPath id := by
  have fixed : ∀ c ∈ '/' :: "history".toList, IsPlain c := by
    simp [IsPlain]
  have characters : ∀ c ∈ historyPath id, IsPlain c := by
    intro c member
    rw [historyPath, ← List.cons_append, List.mem_append] at member
    rcases member with start | rest
    · exact fixed c start
    · rcases List.mem_cons.mp rest with rfl | inId
      · exact .inr rfl
      · exact .inl (plain c inId)
  have whole : (historyPath id).takeWhile (fun c => c ≠ '?' && c ≠ '#') = historyPath id := by
    rw [List.takeWhile_eq_self_iff]
    intro c member
    have mark := (characters c member).ne '?' (by decide)
    have hash := (characters c member).ne '#' (by decide)
    simp [mark, hash]
  have local_ : '/' :: (withoutHost (historyPath id)).dropWhile (· = '/') = historyPath id := by
    simp [historyPath, withoutHost]
  rw [pathOf]
  simp only [String.toList_ofList, whole, local_]
  rw [resolveDots_historyPath plain, decode_percentDecode_encode characters]

end

theorem lookup_fixed_historyPath (id : List Char) :
    Route.fixed.lookup (String.ofList (historyPath id)) = none := by
  have other : ∀ entry ∈ Route.fixed, ¬ "/history/".toList <+: entry.1.toList := by decide
  rw [List.lookup_eq_none_iff]
  intro entry listed
  rw [bne_iff_ne]
  intro same
  apply other entry listed
  rw [← same, String.toList_ofList]
  exact ⟨id, by simp [historyPath]⟩

theorem ofTarget?_history {id : String} (plain : ∀ c ∈ id.toList, c.isAlphanum = true)
    (named : id ≠ "") : Route.ofTarget? ("/history/" ++ id) = some (.analysis id) := by
  have target : "/history/" ++ id = String.ofList (historyPath id.toList) := by
    rw [← String.toList_inj]
    simp [historyPath]
  obtain ⟨others, last, ending⟩ : ∃ others last, id.toList = others ++ [last] := by
    rcases List.eq_nil_or_concat id.toList with empty | ⟨others, last, ending⟩
    · exact absurd (String.toList_eq_nil_iff.mp empty) named
    · exact ⟨others, last, by rw [ending, List.concat_eq_append]⟩
  have letter : last.isAlphanum = true := plain last (by simp [ending])
  have reversed : (historyPath id.toList).reverse =
      last :: ('/' :: ("history".toList ++ '/' :: others)).reverse := by
    simp [historyPath, ending]
  have slashless : withoutSlashes (historyPath id.toList) = historyPath id.toList := by
    have other : last ≠ '/' := by
      rintro rfl
      exact absurd letter (by decide)
    rw [withoutSlashes, reversed, List.dropWhile_cons_of_neg (by simpa using other), ← reversed,
      List.reverse_reverse]
  have unended : withoutLineFeed (historyPath id.toList) = historyPath id.toList := by
    rw [withoutLineFeed, reversed]
    split
    next feed =>
      rw [(List.cons.inj feed).1] at letter
      exact absurd letter (by decide)
    next => rfl
  have unbroken : '/' ∉ id.toList := fun member => absurd (plain '/' member) (by decide)
  have parts : split '/' (historyPath id.toList) = [[], "history".toList, id.toList] := by
    rw [historyPath, split_cons_self, split_append_cons (by decide), split_of_not_mem unbroken]
  rw [target, Route.ofTarget?, pathOf_historyPath plain, slashless, Route.ofPath?, unended,
    lookup_fixed_historyPath, Option.none_or, Route.analysisOfPath?, parts]
  simp [named]

end Service

end LineLint
