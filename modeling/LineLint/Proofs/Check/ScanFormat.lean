import LineLint.Proofs.Pattern.Reads
import LineLint.Proofs.Report.ByMessage

namespace LineLint.CFamily

open Pattern

/-- A part of a format that reads no word without a width. -/
inductive FormatPiece
  | plain (text : List Char) (visible : text ≠ []) (free : '%' ∉ text ∧ '"' ∉ text)
  | number
  | word (width : List Char) (digits : width.all Char.isDigit = true)
      (positive : width.any (· != '0') = true)

namespace FormatPiece

def text : FormatPiece → List Char
  | plain text _ _ => text
  | number => ['%', 'd']
  | word width _ _ => '%' :: width ++ ['s']

def converts : FormatPiece → Bool
  | plain _ _ _ => false
  | number | word _ _ _ => true

def endsInS : FormatPiece → Bool
  | plain text _ _ => text.getLast? == some 's'
  | number => false
  | word _ _ _ => true

theorem text_ne_nil (piece : FormatPiece) : piece.text ≠ [] := by
  cases piece with
  | plain text visible => exact visible
  | number | word => exact List.cons_ne_nil _ _

theorem head?_text_eq_iff (piece : FormatPiece) :
    piece.text.head? = some '%' ↔ piece.converts = true := by
  cases piece with
  | plain text visible free =>
      apply iff_of_false _ Bool.false_ne_true
      intro begins
      exact free.1 (List.mem_of_head? begins)
  | number | word => exact iff_of_true rfl rfl

theorem getLast?_text_eq_iff (piece : FormatPiece) :
    piece.text.getLast? = some 's' ↔ piece.endsInS = true := by
  cases piece with
  | plain text => exact beq_iff_eq.symm
  | number => decide
  | word width => exact iff_of_true List.getLast?_concat rfl

end FormatPiece

def formatOf (pieces : List FormatPiece) : List Char := pieces.flatMap FormatPiece.text

/-- The format begins a conversion and ends in an `s`. -/
structure LooksUnbounded (format : List Char) : Prop where
  begins : format.head? = some '%'
  ends : format.getLast? = some 's'

theorem looksUnbounded_formatOf {pieces : List FormatPiece} :
    LooksUnbounded (formatOf pieces) ↔
      pieces.head?.any (·.converts) = true ∧ pieces.getLast?.any (·.endsInS) = true := by
  have begins : (formatOf pieces).head? = some '%' ↔ pieces.head?.any (·.converts) = true := by
    cases pieces with
    | nil => simp [formatOf]
    | cons first rest =>
        rw [formatOf, List.flatMap_cons, List.head?_append_of_ne_nil _ first.text_ne_nil,
          first.head?_text_eq_iff]
        rfl
  have ends : (formatOf pieces).getLast? = some 's' ↔ pieces.getLast?.any (·.endsInS) = true := by
    rcases List.eq_nil_or_concat pieces with rfl | ⟨rest, last, rfl⟩
    · simp [formatOf]
    · rw [List.concat_eq_append, formatOf, List.flatMap_append, List.flatMap_singleton,
        List.getLast?_append_of_ne_nil _ last.text_ne_nil, last.getLast?_text_eq_iff,
        List.getLast?_concat]
      rfl
  rw [← begins, ← ends]
  exact ⟨fun looks => ⟨looks.begins, looks.ends⟩, fun ⟨begins, ends⟩ => ⟨begins, ends⟩⟩

theorem looksUnbounded_iff {format : List Char} :
    LooksUnbounded format ↔ ∃ between, format = '%' :: between ++ ['s'] := by
  constructor
  · rintro ⟨begins, ends⟩
    obtain ⟨rest, rfl⟩ := List.head?_eq_some_iff.mp begins
    obtain ⟨between, same⟩ := List.getLast?_eq_some_iff.mp ends
    cases between with
    | nil => cases same
    | cons first between =>
        obtain ⟨rfl, rfl⟩ := List.cons.inj same
        exact ⟨between, rfl⟩
  · rintro ⟨between, rfl⟩
    exact ⟨rfl, List.getLast?_concat⟩

/-- The line calls `scanf` with this format, written out as the first argument. -/
def ScansWith (line format : List Char) : Prop :=
  '"' ∉ format ∧ ∃ before outer inner after, CharSet.blank.Spans outer ∧ CharSet.blank.Spans inner ∧
    line = before ++ "scanf".toList ++ outer ++ "(".toList ++ inner ++
      '"' :: (format ++ '"' :: after)

theorem occursIn_unboundedScan {line : Line} :
    unboundedScan.pattern.occursIn line = true ↔
      ∃ format, ScansWith line format ∧ LooksUnbounded format := by
  simp only [occursIn_iff_reads, unboundedScan, spaced, reads_append, reads_lit, reads_gap,
    reads_upTo, CharSet.spans_noneOf_singleton, existsAndEq, and_true, true_and, Option.none_or,
    and_assoc]
  constructor
  · rintro ⟨before, after, between, inner, outer, rfl, outerBlank, innerBlank, free⟩
    refine ⟨'%' :: between ++ ['s'], ⟨?_, before, outer, inner, after, outerBlank, innerBlank, ?_⟩,
      looksUnbounded_iff.mpr ⟨between, rfl⟩⟩
    · simp [free]
    · simp
  · rintro ⟨format, ⟨free, before, outer, inner, after, outerBlank, innerBlank, rfl⟩, looks⟩
    obtain ⟨between, rfl⟩ := looksUnbounded_iff.mp looks
    refine ⟨before, after, between, inner, outer, ?_, outerBlank, innerBlank, ?_⟩
    · simp
    · intro member
      exact free (by simp [member])

theorem ScansWith.eq_of_count {line format other : List Char} (scans : ScansWith line format)
    (otherScans : ScansWith line other) (twice : line.count '"' = 2) : format = other := by
  have cut : ∀ {format}, ScansWith line format → ∃ lead after,
      (CharSet.noneOf ['"']).Spans lead ∧ (CharSet.noneOf ['"']).Spans format ∧
        line = lead ++ '"' :: (format ++ '"' :: after) := by
    rintro format ⟨free, before, outer, inner, after, -, -, whole⟩
    have counts := twice
    simp only [whole, List.count_append, List.count_cons_self] at counts
    refine ⟨_, after, ?_, CharSet.spans_noneOf_singleton.mpr free, whole⟩
    simp only [CharSet.spans_noneOf_singleton, ← List.count_eq_zero, List.count_append]
    omega
  have closes : ∀ rest, (CharSet.noneOf ['"']).StopsAt ('"' :: rest) := fun rest =>
    CharSet.stopsAt_cons.mpr (by decide)
  obtain ⟨lead, after, leadFree, free, whole⟩ := cut scans
  obtain ⟨otherLead, otherAfter, otherLeadFree, otherFree, otherWhole⟩ := cut otherScans
  obtain ⟨-, same⟩ := leadFree.eq_of_append_eq otherLeadFree (closes _) (closes _)
    (whole.symm.trans otherWhole)
  exact (free.eq_of_append_eq otherFree (closes _) (closes _) (List.cons.inj same).2).1

theorem reportsOf_unboundedScan (text : List Char) (number : Nat) :
    reportsOf "scanf without width limit" number (check text) =
      Rule.check [unboundedScan] number (lineAt (lines text) number) :=
  Language.reportsOf_ownCheck .c (by decide) (by decide) (by decide) (by decide) rfl number

/-- A line is reported for a word without a width if it calls `scanf` with a format that begins a
conversion and ends in an `s`. Of a format in which all words have a width, the first piece and the
last decide. -/
theorem scan_formats_reported (text : List Char) (number : Nat) :
    ((∃ format, ScansWith (lineAt (lines text) number) format ∧ LooksUnbounded format) ↔
      reportsOf "scanf without width limit" number (check text) =
        [unboundedScan.at number (lineAt (lines text) number)]) ∧
    ((¬ ∃ format, ScansWith (lineAt (lines text) number) format ∧ LooksUnbounded format) ↔
      reportsOf "scanf without width limit" number (check text) = []) ∧
    (∀ pieces, ScansWith (lineAt (lines text) number) (formatOf pieces) →
      (∀ other, ScansWith (lineAt (lines text) number) other → other = formatOf pieces) →
      (reportsOf "scanf without width limit" number (check text) = [] ↔
        ¬ (pieces.head?.any (·.converts) = true ∧ pieces.getLast?.any (·.endsInS) = true))) ∧
    ∀ before argument after,
      lineAt (lines text) number =
        before ++ "scanf(\"%s\", ".toList ++ argument ++ ");".toList ++ after →
      reportsOf "scanf without width limit" number (check text) =
        [unboundedScan.at number (lineAt (lines text) number)] := by
  have applies : unboundedScan.applies (lineAt (lines text) number) = true ↔
      ∃ format, ScansWith (lineAt (lines text) number) format ∧ LooksUnbounded format := by
    rw [← occursIn_unboundedScan, Rule.applies_of_veto_eq_none rfl]
    rfl
  obtain ⟨reported, silent⟩ := Rule.check_singleton_iff applies number
  rw [reportsOf_unboundedScan]
  refine ⟨reported, silent, ?_, ?_⟩
  · intro pieces scans only
    rw [← silent, ← looksUnbounded_formatOf, not_iff_not]
    constructor
    · rintro ⟨format, other, looks⟩
      rwa [only format other] at looks
    · intro looks
      exact ⟨_, scans, looks⟩
  · intro before argument after whole
    apply reported.mp
    refine ⟨"%s".toList, ⟨by decide, before, [], [],
      ", ".toList ++ argument ++ ");".toList ++ after, CharSet.spans_nil _, CharSet.spans_nil _,
      ?_⟩, by decide, by decide⟩
    simp [whole]

/-- A text before the conversion keeps the rule from it. -/
theorem scan_formats_reported_of_text :
    let text := "int n;\nscanf(\"n: %99s\", name);".toList
    let pieces : List FormatPiece :=
      [.plain "n: ".toList (by decide) (by decide), .word "99".toList (by decide) (by decide)]
    ScansWith (lineAt (lines text) 2) (formatOf pieces) ∧
      reportsOf "scanf without width limit" 2 (check text) = [] := by
  intro text pieces
  have scans : ScansWith (lineAt (lines text) 2) (formatOf pieces) :=
    ⟨by decide, [], [], [], ", name);".toList, CharSet.spans_nil _, CharSet.spans_nil _,
      by decide +kernel⟩
  have only : ∀ other, ScansWith (lineAt (lines text) 2) other → other = formatOf pieces :=
    fun other otherScans => otherScans.eq_of_count scans (by decide +kernel)
  obtain ⟨-, -, bounded, -⟩ := scan_formats_reported text 2
  exact ⟨scans, (bounded pieces scans only).mpr (by decide)⟩

/-- A format of one word with a width is reported for having none. -/
theorem bounded_scan_reported :
    let text := "scanf(\"%99s\", buffer);".toList
    let pieces : List FormatPiece := [.word "99".toList (by decide) (by decide)]
    ScansWith (lineAt (lines text) 1) (formatOf pieces) ∧
      (∀ other, ScansWith (lineAt (lines text) 1) other → other = formatOf pieces) ∧
      reportsOf "scanf without width limit" 1 (check text) =
        [unboundedScan.at 1 (lineAt (lines text) 1)] := by
  intro text pieces
  have scans : ScansWith (lineAt (lines text) 1) (formatOf pieces) :=
    ⟨by decide, [], [], [], ", buffer);".toList, CharSet.spans_nil _, CharSet.spans_nil _,
      by decide +kernel⟩
  refine ⟨scans, fun other otherScans => otherScans.eq_of_count scans ?_, ?_⟩
  · decide +kernel
  · decide +kernel

end LineLint.CFamily
