import LineLint.Proofs.Check.Filing
import LineLint.Proofs.Pattern.Reads
import LineLint.Proofs.Scan.Local
import LineLint.Proofs.Text.Blank
import LineLint.Proofs.Text.LineStart

namespace LineLint.CFamily

open Pattern

/-- A call that frees a name, with the blanks that may stand in it. -/
def Frees (name call : List Char) : Prop :=
  ∃ outer inner last, CharSet.blank.Spans outer ∧ CharSet.blank.Spans inner ∧
    CharSet.blank.Spans last ∧
    call = "free".toList ++ outer ++ "(".toList ++ inner ++ name ++ last ++ ")".toList

/-- The line ends in a statement that frees something, be it a name or not. -/
def EndsInFree (line : Line) : Prop :=
  ∃ before outer argument last semicolon trail, CharSet.blank.Spans outer ∧
    argument ≠ [] ∧ ')' ∉ argument ∧ CharSet.blank.Spans last ∧
    (semicolon = ";".toList ∨ semicolon = []) ∧ CharSet.blank.Spans trail ∧
    line = before ++ ("free".toList ++ outer ++ "(".toList ++ argument ++ ")".toList ++ last ++
      semicolon ++ trail)

/-- What is left of the line after the bracket of a call with which it ends. -/
def EndsCall (rest : List Char) : Prop :=
  ∃ argument last semicolon trail, argument ≠ [] ∧ ')' ∉ argument ∧ CharSet.blank.Spans last ∧
    (semicolon = ";".toList ∨ semicolon = []) ∧ CharSet.blank.Spans trail ∧
    rest = argument ++ ")".toList ++ last ++ semicolon ++ trail

/-- The first call in the line that frees a name frees this one. -/
def FreesFirst (line name : List Char) : Prop :=
  IsWord name ∧ ∃ before call after, line = before ++ call ++ after ∧ Frees name call ∧
    ∀ earlier other rest word, line = earlier ++ other ++ rest → IsWord word → Frees word other →
      before.length ≤ earlier.length

section

variable {before taken after : List Char} {kept : Option (List Char)} {name : List Char}

theorem reads_freeOf :
    (freeOf name).Reads before taken after kept ↔ Frees name taken ∧ kept = none := by
  simp only [freeOf, spaced, reads_append, reads_lit, reads_gap, reads_chars, existsAndEq, and_true,
    true_and, Option.none_or, and_assoc]
  constructor
  · rintro ⟨last, inner, outer, rfl, rfl, outerBlank, innerBlank, lastBlank⟩
    exact ⟨⟨outer, inner, last, outerBlank, innerBlank, lastBlank, rfl⟩, rfl⟩
  · rintro ⟨⟨outer, inner, last, outerBlank, innerBlank, lastBlank, rfl⟩, rfl⟩
    exact ⟨last, inner, outer, rfl, rfl, outerBlank, innerBlank, lastBlank⟩

theorem reads_freedName :
    freedName.Reads before taken after kept ↔
      ∃ name, IsWord name ∧ Frees name taken ∧ kept = some name := by
  simp only [freedName, spaced, reads_append, reads_lit, reads_gap, reads_captureWord, existsAndEq,
    and_true, true_and, Option.none_or, Option.or_none, and_assoc]
  constructor
  · rintro ⟨last, name, inner, outer, rfl, rfl, outerBlank, innerBlank, word, lastBlank⟩
    exact ⟨name, word, ⟨outer, inner, last, outerBlank, innerBlank, lastBlank, rfl⟩, rfl⟩
  · rintro ⟨name, word, ⟨outer, inner, last, outerBlank, innerBlank, lastBlank, rfl⟩, rfl⟩
    exact ⟨last, name, inner, outer, rfl, rfl, outerBlank, innerBlank, word, lastBlank⟩

theorem occursIn_callStatement {opening : Pattern} {line : Line} :
    (opening ++ someUpTo [')'] ++ lit ")" ++ gap ++ optional (lit ";") ++ gap ++
        atEnd).occursIn line = true ↔
      ∃ before opened rest kept, line = before ++ opened ++ rest ∧
        opening.Reads before opened rest kept ∧ EndsCall rest := by
  simp only [occursIn_iff_reads, reads_append, reads_lit, reads_gap, someUpTo, reads_atLeastOne,
    reads_optional, reads_atEnd, CharSet.spans_noneOf_singleton, existsAndEq, and_true, true_and,
    Option.none_or, and_assoc, ← or_and_right, List.append_nil]
  constructor
  · rintro ⟨before, kept, trail, semicolon, last, opened, argument, rfl, opens, absent, visible,
      lastBlank, optional, trailBlank⟩
    refine ⟨before, opened, argument ++ ")".toList ++ last ++ semicolon ++ trail, kept, ?_, ?_,
      argument, last, semicolon, trail, visible, absent, lastBlank, optional, trailBlank, rfl⟩
    · simp only [List.append_assoc]
    · simpa only [List.append_assoc] using opens
  · rintro ⟨before, opened, _, kept, rfl, opens, argument, last, semicolon, trail, visible, absent,
      lastBlank, optional, trailBlank, rfl⟩
    refine ⟨before, kept, trail, semicolon, last, opened, argument, ?_, ?_, absent, visible,
      lastBlank, optional, trailBlank⟩
    · simp only [List.append_assoc]
    · simpa only [List.append_assoc] using opens

theorem occursIn_freeStatement {line : Line} :
    freeStatement.occursIn line = true ↔ EndsInFree line := by
  refine occursIn_callStatement.trans ?_
  simp only [spaced, reads_append, reads_lit, reads_gap, existsAndEq, and_true, true_and,
    Option.none_or]
  constructor
  · rintro ⟨before, _, outer, rfl, outerBlank, argument, last, semicolon, trail, visible, absent,
      lastBlank, optional, trailBlank, rfl⟩
    exact ⟨before, outer, argument, last, semicolon, trail, outerBlank, visible, absent, lastBlank,
      optional, trailBlank, by simp only [List.append_assoc]⟩
  · rintro ⟨before, outer, argument, last, semicolon, trail, outerBlank, visible, absent, lastBlank,
      optional, trailBlank, rfl⟩
    exact ⟨before, _, outer, by simp only [List.append_assoc], outerBlank, argument, last,
      semicolon, trail, visible, absent, lastBlank, optional, trailBlank, rfl⟩

end

/-- Blanks, brackets and words are apart, so that a call frees one name only. -/
theorem Frees.name_eq {name other call more rest others : List Char} (frees : Frees name call)
    (otherFrees : Frees other more) (word : IsWord name) (otherWord : IsWord other)
    (same : call ++ rest = more ++ others) : name = other := by
  obtain ⟨outer, inner, last, outerBlank, innerBlank, lastBlank, rfl⟩ := frees
  obtain ⟨outer', inner', last', outerBlank', innerBlank', lastBlank', rfl⟩ := otherFrees
  simp only [List.append_assoc, List.append_cancel_left_eq] at same
  have bracket : ∀ rest, CharSet.blank.StopsAt ("(".toList ++ rest) := fun rest =>
    CharSet.stopsAt_cons.mpr (by decide)
  have closing : ∀ rest, CharSet.word.StopsAt (")".toList ++ rest) := fun rest =>
    CharSet.stopsAt_cons.mpr (by decide)
  obtain ⟨-, same⟩ := outerBlank.eq_of_append_eq outerBlank' (bracket _) (bracket _) same
  obtain ⟨-, same⟩ := innerBlank.eq_of_append_eq innerBlank' (word.stopsAt_blank _)
    (otherWord.stopsAt_blank _) (List.append_cancel_left same)
  exact (word.1.eq_of_append_eq otherWord.1 (lastBlank.stopsAt_word (closing _))
    (lastBlank'.stopsAt_word (closing _)) same).1

theorem decided_freedName : freedName.Decided := by
  intro before taken rest kept other more later reads otherReads same
  obtain ⟨name, word, frees, rfl⟩ := reads_freedName.mp reads
  obtain ⟨otherName, otherWord, otherFrees, rfl⟩ := reads_freedName.mp otherReads
  rw [frees.name_eq otherFrees word otherWord same]

/-- Of all calls in a line that free a name, the first is told. -/
theorem captureIn_freedName_iff {line name : List Char} :
    freedName.captureIn line = some name ↔ FreesFirst line name := by
  simp only [captureIn_eq_some_iff decided_freedName, ReadsFirst, reads_freedName]
  constructor
  · rintro ⟨before, call, after, whole, ⟨_, isWord, frees, ⟨⟩⟩, first⟩
    refine ⟨isWord, before, call, after, whole, frees, ?_⟩
    intro earlier other rest word split isWord frees
    exact first earlier other rest _ split ⟨word, isWord, frees, rfl⟩
  · rintro ⟨isWord, before, call, after, whole, frees, first⟩
    refine ⟨before, call, after, whole, ⟨name, isWord, frees, rfl⟩, ?_⟩
    rintro earlier other rest _ split ⟨word, isWord, frees, rfl⟩
    exact first earlier other rest word split isWord frees

theorem freesTwice_iff {text : List Char} {line : Line} :
    freesTwice text line = true ↔
      ∃ name, EndsInFree line ∧ FreesFirst line name ∧
        ∃ call, Frees name call ∧ call <:+: textBefore text line := by
  have freed : ∀ {name}, freed? line = some name ↔ EndsInFree line ∧ FreesFirst line name := by
    intro name
    rw [freed?, Option.ite_none_right_eq_some, occursIn_freeStatement, captureIn_freedName_iff]
  have occurs : ∀ {name}, (freeOf name).occursIn (textBefore text line) = true ↔
      ∃ call, Frees name call ∧ call <:+: textBefore text line := by
    intro name
    simp only [occursIn_iff_reads, reads_freeOf, existsAndEq, and_true]
    constructor
    · rintro ⟨before, call, after, whole, frees⟩
      exact ⟨call, frees, before, after, whole.symm⟩
    · rintro ⟨call, frees, before, after, whole⟩
      exact ⟨before, call, after, whole.symm, frees⟩
  simp only [freesTwice, Option.any_eq_true, freed, occurs, and_assoc]

theorem textBefore_append {text : List Char} {line : Line} (held : line <:+: text)
    (rest : List Char) : textBefore (text ++ rest) line = textBefore text line := by
  obtain ⟨offset, found⟩ := Option.isSome_iff_exists.mp (offset?_isSome_iff.mpr held)
  rw [textBefore, textBefore, found, offset?_append_right found, Option.getD_some,
    List.take_append_of_le_length (offset?_le_length found)]

section

variable {text : List Char} {number : Nat} (inside : number ∈ lineNumbers (lines text))

include inside

theorem textBefore_eq_textAbove
    (first : ∀ offset, offset < (textAbove (lines text) number).length →
      ¬ lineAt (lines text) number <+: text.drop offset) :
    textBefore text (lineAt (lines text) number) = textAbove (lines text) number := by
  rw [textBefore, offset?_eq_some (lineAt_prefix_drop inside) first, Option.getD_some,
    take_textAbove inside]

theorem isPrefix_textBefore :
    textBefore text (lineAt (lines text) number) <+: textAbove (lines text) number := by
  have here := lineAt_prefix_drop inside
  obtain ⟨offset, found⟩ :=
    Option.isSome_iff_exists.mp (offset?_isSome_iff.mpr (lineAt_infix_text inside))
  have upTo : offset ≤ (textAbove (lines text) number).length := by
    rw [← Nat.not_lt]
    intro beyond
    exact not_isPrefix_drop_of_lt_offset? found beyond here
  rw [textBefore, found, Option.getD_some, ← take_textAbove inside]
  exact List.take_prefix_take_left upTo

end

def isDoubleFree (message : String) : Bool := message == "Double free vulnerability"

def reportedOn (text : List Char) (number : Nat) : List Finding :=
  ((check text).filter fun finding => isDoubleFree finding.message).filter (·.isOn number)

theorem reportedOn_eq {text : List Char} {number : Nat}
    (inside : number ∈ lineNumbers (lines text)) :
    reportedOn text number =
      if freesTwice text (lineAt (lines text) number) then
        [doubleFree.at number (lineAt (lines text) number)]
      else [] := by
  have leading : ∀ rule ∈ leadingRules, isDoubleFree rule.message = false := by decide
  have trailing : ∀ rule ∈ trailingRules, isDoubleFree rule.message = false := by decide
  have freed : isDoubleFree doubleFree.message = true := by decide
  have part : ((check text).filter fun finding => isDoubleFree finding.message) =
      scan (fun number line _ =>
        if freesTwice text line then [doubleFree.at number line] else []) text := by
    apply filter_scan
    intro number line rest
    rw [List.filter_append, List.filter_append, Rule.filter_message_check number line leading,
      Rule.filter_message_check number line trailing, doubleFrees_eq, List.nil_append,
      List.append_nil]
    split <;> simp [freed]
  rw [reportedOn, part]
  exact (@isLocal_ite_at 0 (fun line _ => freesTwice text line) doubleFree
    fun _ _ => rfl).filter_isOn_scan inside

theorem reportedOn_eq_of_take_eq {text other : List Char} {number : Nat}
    (inside : number ∈ lineNumbers (lines text))
    (same : (lines text).take number = (lines other).take number) :
    reportedOn text number = reportedOn other number := by
  have otherInside := mem_lineNumbers_of_take_eq same inside
  obtain ⟨rest, whole⟩ := exists_eq_textAbove inside
  obtain ⟨more, otherWhole⟩ := exists_eq_textAbove otherInside
  rw [← textAbove_eq_of_take_eq same, ← lineAt_eq_of_take_eq same] at otherWhole
  have held : lineAt (lines text) number <:+:
      textAbove (lines text) number ++ lineAt (lines text) number :=
    (List.suffix_append _ _).isInfix
  have before : textBefore text (lineAt (lines text) number) =
      textBefore other (lineAt (lines text) number) := by
    rw [congrArg (textBefore · _) whole, congrArg (textBefore · _) otherWhole,
      textBefore_append held, textBefore_append held]
  rw [reportedOn_eq inside, reportedOn_eq otherInside, ← lineAt_eq_of_take_eq same, freesTwice,
    freesTwice, before]

/-- A report of memory freed twice on a line names a call in that line and one for the same name
somewhere above it. A line that ends in freeing something is reported once if its first call frees
a name that a call above it frees, unless the line's text occurs further up already. What is below
the line makes no difference. -/
theorem double_free_reports {text : List Char} {number : Nat}
    (inside : number ∈ lineNumbers (lines text)) :
    (reportedOn text number ≠ [] →
      ∃ name call earlier, IsWord name ∧
        Frees name call ∧ call <:+: lineAt (lines text) number ∧
        Frees name earlier ∧ earlier <:+: textAbove (lines text) number) ∧
    (∀ name call, EndsInFree (lineAt (lines text) number) →
      FreesFirst (lineAt (lines text) number) name →
      (∀ offset, offset < (textAbove (lines text) number).length →
        ¬ lineAt (lines text) number <+: text.drop offset) →
      Frees name call → call <:+: textAbove (lines text) number →
      reportedOn text number = [doubleFree.at number (lineAt (lines text) number)]) ∧
    ∀ other, (lines text).take number = (lines other).take number →
      reportedOn text number = reportedOn other number := by
  refine ⟨?_, ?_, fun other same => reportedOn_eq_of_take_eq inside same⟩
  · intro reported
    rw [reportedOn_eq inside] at reported
    obtain ⟨name, -, ⟨isWord, before, call, after, whole, frees, -⟩, earlier, earlierFrees,
      above⟩ := freesTwice_iff.mp (of_not_not fun quiet => reported (if_neg quiet))
    refine ⟨name, call, earlier, isWord, frees, ⟨before, after, whole.symm⟩, earlierFrees, ?_⟩
    exact above.trans (isPrefix_textBefore inside).isInfix
  · intro name call ends first unhidden frees above
    rw [reportedOn_eq inside, if_pos]
    refine freesTwice_iff.mpr ⟨name, ends, first, call, frees, ?_⟩
    rwa [textBefore_eq_textAbove inside unhidden]

/-- The call above the line may go over several lines. -/
theorem double_free_reports_of_broken_call :
    let text := "free(\n  node );\nx();\n  free (node) ;".toList
    let line := "  free (node) ;".toList
    4 ∈ lineNumbers (lines text) ∧ lineAt (lines text) 4 = line ∧ EndsInFree line ∧
      FreesFirst line "node".toList ∧ Frees "node".toList "free(\n  node )".toList ∧
      "free(\n  node )".toList <:+: textAbove (lines text) 4 ∧
      reportedOn text 4 = [doubleFree.at 4 line] ∧
      reportedOn text 4 = reportedOn (text ++ "\nfree(x);".toList) 4 := by
  intro text line
  have inside : 4 ∈ lineNumbers (lines text) := by decide +kernel
  have here : lineAt (lines text) 4 = line := by decide +kernel
  have ends : EndsInFree line := occursIn_freeStatement.mp (by decide +kernel)
  have first : FreesFirst line "node".toList := captureIn_freedName_iff.mp (by decide +kernel)
  have frees : Frees "node".toList "free(\n  node )".toList :=
    ⟨[], "\n  ".toList, [' '], by simp, by decide +kernel, by decide +kernel, by decide +kernel⟩
  have above : "free(\n  node )".toList <:+: textAbove (lines text) 4 := by decide +kernel
  obtain ⟨-, complete, hidden⟩ := @double_free_reports text 4 inside
  refine ⟨inside, here, ends, first, frees, above, ?_, hidden _ (by decide +kernel)⟩
  exact complete _ _ (here ▸ ends) (here ▸ first) (by decide +kernel) frees above

end LineLint.CFamily
