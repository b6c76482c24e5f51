import LineLint.Check.Managed
import LineLint.Proofs.Pattern.Reads
import LineLint.Proofs.Text.Blank

namespace LineLint.Java

open Pattern

/-- Modifiers, if any, a type and a name in front of a bracket. -/
def HeadsMethod (head : List Char) : Prop :=
  ∃ lead access second static third type between name last,
    head = lead ++ access ++ second ++ static ++ third ++ type ++ between ++ name ++ last ++
      "(".toList ∧
    CharSet.blank.Spans lead ∧
    ((∃ token ∈ ["public", "private", "protected"], access = token.toList) ∨ access = []) ∧
    CharSet.blank.Spans second ∧ (static = "static".toList ∨ static = []) ∧
    CharSet.blank.Spans third ∧ IsWord type ∧ CharSet.blank.Spans between ∧ between ≠ [] ∧
    IsWord name ∧ CharSet.blank.Spans last

def ShowsMethod (line : Line) : Prop :=
  ∃ head rest, strip line = head ++ rest ∧ HeadsMethod head

theorem reads_opening {before taken after : List Char} {kept : Option (List Char)} :
    methodSyntax.opening.Reads before taken after kept ↔
      before = [] ∧ HeadsMethod taken ∧ kept = none := by
  simp only [methodSyntax, access, reads_append, reads_atStart, reads_gap, reads_optional,
    reads_anyOf, reads_lit, reads_word, reads_blanks, existsAndEq, and_true,
    true_and, Option.none_or, and_assoc, ← or_and_right]
  constructor
  · rintro ⟨last, name, between, type, third, static, second, access, lead, rfl, rfl, rfl, parts⟩
    exact ⟨rfl, ⟨lead, access, second, static, third, type, between, name, last, rfl, parts⟩, rfl⟩
  · rintro ⟨rfl, ⟨lead, access, second, static, third, type, between, name, last, rfl, parts⟩, rfl⟩
    exact ⟨last, name, between, type, third, static, second, access, lead, rfl, rfl, rfl, parts⟩

theorem opens_eq (line : Line) :
    methodSyntax.opens line = methodSyntax.opening.occursIn (strip line) := rfl

theorem opens_iff {line : Line} : methodSyntax.opens line = true ↔ ShowsMethod line := by
  simp only [opens_eq, occursIn_iff_reads, reads_opening, ShowsMethod]
  constructor
  · rintro ⟨_, head, rest, _, whole, rfl, heads, -⟩
    exact ⟨head, rest, whole, heads⟩
  · rintro ⟨head, rest, whole, heads⟩
    exact ⟨[], head, rest, none, whole, rfl, heads, rfl⟩

instance (line : Line) : Decidable (ShowsMethod line) := decidable_of_iff _ opens_iff

/-- Up to its first bracket, the text ends in a word, as long as it can be, and blanks. -/
structure EndsInWord (text front name gap rest : List Char) : Prop where
  whole : text = front ++ name ++ gap ++ "(".toList ++ rest
  first : '(' ∉ front ++ name ++ gap
  word : IsWord name
  blank : CharSet.blank.Spans gap
  longest : CharSet.word.StopsAt front.reverse

/-- The word before the first bracket of the stripped line, with no more than blanks between. -/
def NamesMethod (line : Line) (name : List Char) : Prop :=
  ∃ front gap rest, EndsInWord (strip line) front name gap rest

theorem EndsInWord.name_eq {text front name gap rest front' name' gap' rest' : List Char}
    (ends : EndsInWord text front name gap rest)
    (others : EndsInWord text front' name' gap' rest') : name = name' := by
  have bracket : ∀ rest, (CharSet.noneOf ['(']).StopsAt ("(".toList ++ rest) := fun rest =>
    CharSet.stopsAt_cons.mpr (by decide)
  have same := ends.whole.symm.trans others.whole
  simp only [List.append_assoc _ "(".toList] at same
  obtain ⟨heads, -⟩ := (CharSet.spans_noneOf_singleton.mpr ends.first).eq_of_append_eq
    (CharSet.spans_noneOf_singleton.mpr others.first) (bracket _) (bracket _) same
  -- read from the bracket backwards, the blanks come first and the word after them
  have backwards := congrArg List.reverse heads
  simp only [List.reverse_append] at backwards
  obtain ⟨-, words⟩ := ends.blank.reverse.eq_of_append_eq others.blank.reverse
    (ends.word.reverse.stopsAt_blank _) (others.word.reverse.stopsAt_blank _) backwards
  obtain ⟨names, -⟩ := ends.word.reverse.1.eq_of_append_eq others.word.reverse.1 ends.longest
    others.longest words
  exact List.reverse_inj.mp names

/-- Modifiers, if any, and a type with the blanks behind it. -/
def LeadsName (front : List Char) : Prop :=
  ∃ access second static third type between,
    front = access ++ second ++ static ++ third ++ type ++ between ∧
    ((∃ token ∈ ["public", "private", "protected"], access = token.toList) ∨ access = []) ∧
    CharSet.blank.Spans second ∧ (static = "static".toList ∨ static = []) ∧
    CharSet.blank.Spans third ∧ IsWord type ∧ CharSet.blank.Spans between ∧ between ≠ []

def HeadsNamed (head name : List Char) : Prop :=
  ∃ front last, head = front ++ name ++ last ++ "(".toList ∧ LeadsName front ∧ IsWord name ∧
    CharSet.blank.Spans last

section

variable {before taken after : List Char} {kept : Option (List Char)}
variable {front head name rest : List Char}

theorem reads_name :
    methodSyntax.name.Reads before taken after kept ↔
      ∃ name, HeadsNamed taken name ∧ kept = some name := by
  simp only [methodSyntax, access, reads_append, reads_gap, reads_optional, reads_anyOf, reads_lit,
    reads_word, reads_blanks, reads_captureWord, existsAndEq, and_true, true_and, Option.none_or,
    Option.or_none, and_assoc, ← or_and_right]
  constructor
  · rintro ⟨last, name, between, type, third, static, access, second, rfl, rfl, modifier,
      secondBlank, optional, thirdBlank, isType, betweenBlank, apart, isName, lastBlank⟩
    exact ⟨name, ⟨_, last, rfl, ⟨access, second, static, third, type, between, rfl, modifier,
      secondBlank, optional, thirdBlank, isType, betweenBlank, apart⟩, isName, lastBlank⟩, rfl⟩
  · rintro ⟨name, ⟨_, last, rfl, ⟨access, second, static, third, type, between, rfl, modifier,
      secondBlank, optional, thirdBlank, isType, betweenBlank, apart⟩, isName, lastBlank⟩, rfl⟩
    exact ⟨last, name, between, type, third, static, access, second, rfl, rfl, modifier,
      secondBlank, optional, thirdBlank, isType, betweenBlank, apart, isName, lastBlank⟩

theorem bracket_not_mem_of_isWord {word : List Char} (isWord : IsWord word) : '(' ∉ word :=
  isWord.1.not_mem (by decide)

theorem bracket_not_mem_of_blank {blanks : List Char} (blank : CharSet.blank.Spans blanks) :
    '(' ∉ blanks :=
  blank.not_mem (by decide)

theorem LeadsName.bracket_not_mem (leads : LeadsName front) : '(' ∉ front := by
  obtain ⟨access, second, static, third, type, between, rfl, modifier, secondBlank, optional,
    thirdBlank, isType, betweenBlank, -⟩ := leads
  have accessFree : '(' ∉ access := by
    rcases modifier with ⟨token, listed, rfl⟩ | rfl
    · revert token
      decide
    · exact List.not_mem_nil
  have staticFree : '(' ∉ static := by
    rcases optional with rfl | rfl
    · decide
    · exact List.not_mem_nil
  simp only [List.mem_append, not_or]
  exact ⟨⟨⟨⟨⟨accessFree, bracket_not_mem_of_blank secondBlank⟩, staticFree⟩,
    bracket_not_mem_of_blank thirdBlank⟩, bracket_not_mem_of_isWord isType⟩,
    bracket_not_mem_of_blank betweenBlank⟩

theorem LeadsName.stopsAt_word (leads : LeadsName front) : CharSet.word.StopsAt front.reverse := by
  obtain ⟨access, second, static, third, type, between, rfl, -, -, -, -, -, blank, apart⟩ := leads
  intro x next
  rw [List.head?_reverse, List.getLast?_append_of_ne_nil _ apart] at next
  exact isWordChar_of_isBlank (blank x (List.mem_of_getLast? next))

theorem HeadsNamed.exists_endsInWord (heads : HeadsNamed head name) (rest : List Char) :
    ∃ front gap, EndsInWord (head ++ rest) front name gap rest := by
  obtain ⟨front, gap, rfl, leads, isName, blank⟩ := heads
  refine ⟨front, gap, rfl, ?_, isName, blank, leads.stopsAt_word⟩
  simp only [List.mem_append, not_or]
  exact ⟨⟨leads.bracket_not_mem, bracket_not_mem_of_isWord isName⟩, bracket_not_mem_of_blank blank⟩

theorem decided_name : methodSyntax.name.Decided := by
  intro before taken rest kept other more later reads otherReads same
  obtain ⟨name, heads, rfl⟩ := reads_name.mp reads
  obtain ⟨otherName, otherHeads, rfl⟩ := reads_name.mp otherReads
  obtain ⟨front, gap, ends⟩ := heads.exists_endsInWord rest
  obtain ⟨otherFront, otherGap, otherEnds⟩ := otherHeads.exists_endsInWord more
  rw [same] at ends
  rw [ends.name_eq otherEnds]

end

section

variable {line : Line} {name other : List Char}

theorem NamesMethod.unique (names : NamesMethod line name) (others : NamesMethod line other) :
    name = other := by
  obtain ⟨front, gap, rest, ends⟩ := names
  obtain ⟨otherFront, otherGap, otherRest, otherEnds⟩ := others
  exact ends.name_eq otherEnds

/-- A stripped line has no blanks in front, so the name is searched for where the line begins. -/
theorem exists_headsNamed (shows : ShowsMethod line) :
    ∃ head name rest, strip line = head ++ rest ∧ HeadsNamed head name := by
  obtain ⟨_, rest, whole, lead, access, second, static, third, type, between, name, last, rfl,
    blank, modifier, secondBlank, optional, thirdBlank, isType, betweenBlank, apart, isName,
    lastBlank⟩ := shows
  have solid : CharSet.blank.StopsAt (strip line) := fun _ => isBlank_of_mem_head?_strip
  simp only [whole, List.append_assoc] at solid
  obtain rfl := blank.eq_nil_of_stopsAt solid
  exact ⟨_, name, rest, whole, _, last, rfl, ⟨access, second, static, third, type, between, rfl,
    modifier, secondBlank, optional, thirdBlank, isType, betweenBlank, apart⟩, isName, lastBlank⟩

theorem exists_captureIn_name (shows : ShowsMethod line) :
    ∃ name, NamesMethod line name ∧ methodSyntax.name.captureIn (strip line) = some name := by
  obtain ⟨head, name, rest, whole, heads⟩ := exists_headsNamed shows
  obtain ⟨front, gap, ends⟩ := heads.exists_endsInWord rest
  rw [← whole] at ends
  refine ⟨name, ⟨front, gap, rest, ends⟩, (captureIn_eq_some_iff decided_name).mpr ?_⟩
  -- nothing is further left than the first character
  exact ⟨[], head, rest, whole, reads_name.mpr ⟨name, heads, rfl⟩, fun _ _ _ _ _ _ => Nat.zero_le _⟩

theorem nameIn_eq (shows : ShowsMethod line) (names : NamesMethod line name) :
    methodSyntax.nameIn line = String.ofList name := by
  obtain ⟨other, otherNames, captured⟩ := exists_captureIn_name shows
  obtain rfl := names.unique otherNames
  have searched : methodSyntax.nameIn line =
      ((methodSyntax.name.captureIn (strip line)).map String.ofList).getD
        methodSyntax.unnamed := rfl
  rw [searched, captured]
  rfl

end

end LineLint.Java
