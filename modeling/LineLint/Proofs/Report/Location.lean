import LineLint.Proofs.Analysis
import Mathlib.Data.List.Nodup

namespace LineLint

/-- The token stands in the line at this offset and at no smaller one. -/
structure FirstAt (token line : List Char) (offset : Nat) : Prop where
  inside : offset < line.length
  here : token <+: line.drop offset
  first : ∀ earlier, earlier < offset → ¬ token <+: line.drop earlier

/-- The column that a notice with these anchors has on a line: where the first anchor that the line
has stands first, or none if the line has none of them. -/
inductive ColumnOf (anchors : List String) (line : Line) : Option Int → Prop
  | absent (missing : ∀ anchor ∈ anchors, ¬ anchor.toList <:+: line) : ColumnOf anchors line none
  | present {before later : List String} {anchor : String} {offset : Nat}
      (listed : anchors = before ++ anchor :: later)
      (missing : ∀ other ∈ before, ¬ other.toList <:+: line)
      (stands : FirstAt anchor.toList line offset) :
      ColumnOf anchors line (some (offset : Int))

theorem firstAt_of_offset? {token line : List Char} {offset : Nat} (visible : token ≠ [])
    (found : offset? token line = some offset) : FirstAt token line offset where
  inside := offset?_lt_length visible found
  here := isPrefix_drop_of_offset? found
  first := fun _ before => not_isPrefix_drop_of_lt_offset? found before

theorem columnOf_firstOffset? {anchors : List String} (visible : "" ∉ anchors) (line : Line) :
    ColumnOf anchors line ((firstOffset? (anchors.map String.toList) line).map Int.ofNat) := by
  cases found : firstOffset? (anchors.map String.toList) line with
  | none =>
      apply ColumnOf.absent
      intro anchor listed
      rw [firstOffset?, List.findSome?_eq_none_iff] at found
      exact offset?_eq_none_iff.mp (found anchor.toList (List.mem_map_of_mem listed))
  | some offset =>
      obtain ⟨earlier, token, rest, split, stands, missing⟩ := firstOffset?_eq_some_iff.mp found
      obtain ⟨before, others, listed, rfl, tail⟩ := List.map_eq_append_iff.mp split
      obtain ⟨anchor, later, rfl, rfl, rfl⟩ := List.map_eq_cons_iff.mp tail
      have named : anchor.toList ≠ [] := by
        intro empty
        apply visible
        rw [listed, ← String.toList_eq_nil_iff.mp empty]
        simp
      refine ColumnOf.present listed ?_ (firstAt_of_offset? named stands)
      intro other member
      exact missing other.toList (List.mem_map_of_mem member)

/-- Where the finding says it is, it is. -/
structure Finding.LocatedIn (all : List Line) (anchors : List String) (finding : Finding) :
    Prop where
  first : 1 ≤ finding.line
  last : finding.line ≤ all.length
  snippet : finding.snippet = some (String.ofList (strip (lineAt all finding.line)))
  column : ColumnOf anchors (lineAt all finding.line) finding.column

theorem Notice.locatedIn_at {notice : Notice} (visible : "" ∉ notice.anchors) {all : List Line}
    {number : Nat} (first : 1 ≤ number) (last : number ≤ all.length) :
    (notice.at number (lineAt all number)).LocatedIn all notice.anchors where
  first := Int.ofNat_le.mpr first
  last := Int.ofNat_le.mpr last
  snippet := rfl
  column := columnOf_firstOffset? visible _

def Notice.texts (notice : Notice) : Notice := { notice with anchors := [] }

def Finding.texts (finding : Finding) : Notice where
  severity := finding.severity
  category := finding.category
  message := finding.message
  description := finding.description
  suggestion := finding.suggestion

@[simp] theorem Notice.texts_at (notice : Notice) (number : Nat) (line : Line) :
    (notice.at number line).texts = notice.texts := rfl

namespace Language

/-- The notices whose texts do not depend on what is found. -/
def fixedNotices (language : Language) : List Notice :=
  (Security.rules ++ Quality.rules ++ language.rules).map Rule.toNotice ++ language.notices

def lengthAdvice : List String :=
  ["Functions should be kept under 50 lines for better readability and maintainability.",
    "Methods should be kept under 30 lines for better readability.",
    "Functions should be kept under 30 lines for better readability."]

variable {language : Language} {notice other : Notice}

theorem Issues.fixed_or_length (issued : language.Issues notice) :
    notice ∈ language.fixedNotices ∨ notice.anchors = [] ∧ notice.suggestion ∈ lengthAdvice := by
  cases issued with
  | rule listed => exact .inl (List.mem_append_left _ (List.mem_map_of_mem listed))
  | written listed => exact .inl (List.mem_append_right _ listed)
  | longFunction span =>
      have advice : (Quality.longFunction span).suggestion =
        "Functions should be kept under 50 lines for better readability and maintainability." := rfl
      exact .inr ⟨rfl, by simp [advice, lengthAdvice]⟩
  | longMethod span =>
      have advice : (Java.longMethod span).suggestion =
        "Methods should be kept under 30 lines for better readability." := rfl
      exact .inr ⟨rfl, by simp [advice, lengthAdvice]⟩
  | longDefinition name length =>
      have advice : (Python.longFunction name length).suggestion =
        "Functions should be kept under 30 lines for better readability." := rfl
      exact .inr ⟨rfl, by simp [advice, lengthAdvice]⟩

theorem empty_not_mem_anchors : ∀ notice ∈ language.fixedNotices, "" ∉ notice.anchors := by
  cases language <;> decide +kernel

theorem suggestion_not_mem_lengthAdvice :
    ∀ notice ∈ language.fixedNotices, notice.suggestion ∉ lengthAdvice := by
  cases language <;> decide +kernel

theorem nodup_fixedNotices :
    (language.fixedNotices.map fun notice => (notice.message, notice.description)).Nodup := by
  cases language <;> decide +kernel

theorem Issues.visible (issued : language.Issues notice) : "" ∉ notice.anchors := by
  rcases issued.fixed_or_length with fixed | ⟨none, -⟩
  · exact empty_not_mem_anchors notice fixed
  · rw [none]
    exact List.not_mem_nil

theorem Issues.anchors_eq (issued : language.Issues notice) (otherIssued : language.Issues other)
    (same : notice.texts = other.texts) : notice.anchors = other.anchors := by
  simp only [Notice.texts, Notice.mk.injEq] at same
  obtain ⟨-, -, message, description, suggestion, -⟩ := same
  rcases issued.fixed_or_length with fixed | ⟨none, length⟩
  · rcases otherIssued.fixed_or_length with otherFixed | ⟨-, otherLength⟩
    · have key : (notice.message, notice.description) = (other.message, other.description) :=
        Prod.ext message description
      rw [List.inj_on_of_nodup_map nodup_fixedNotices fixed otherFixed key]
    · rw [← suggestion] at otherLength
      exact absurd otherLength (suggestion_not_mem_lengthAdvice notice fixed)
  · rcases otherIssued.fixed_or_length with otherFixed | ⟨otherNone, -⟩
    · rw [suggestion] at length
      exact absurd length (suggestion_not_mem_lengthAdvice other otherFixed)
    · rw [none, otherNone]

end Language

/-- Each bug of a report has the texts of a notice that its language issues, which determine the
notice's anchors, and it is located in the text by these. -/
theorem bugs_located (language : Language) (code : String) :
    ∃ report, analyzeStandard code language.name = .ok report ∧
      ∀ bug ∈ report.bugs, ∃ notice, language.Issues notice ∧ bug.texts = notice.texts ∧
        (∀ other, language.Issues other → bug.texts = other.texts →
          other.anchors = notice.anchors) ∧
        bug.LocatedIn (lines code.toList) notice.anchors := by
  obtain ⟨own, bugs, analyzed⟩ := exists_analyzed language code
  refine ⟨Report.ofBugs bugs, analyzed.reported, ?_⟩
  intro bug member
  have found : bug.toFinding ∈ commonCheck code.toList ++ own := by
    rw [← analyzed.identified]
    exact List.mem_map_of_mem (List.mem_mergeSort.mp member)
  obtain ⟨notice, number, issued, first, last, same⟩ := analyzed.filed bug.toFinding found
  refine ⟨notice, issued, by rw [same, Notice.texts_at], ?_, ?_⟩
  · intro other otherIssued told
    rw [same, Notice.texts_at] at told
    exact (issued.anchors_eq otherIssued told).symm
  · rw [same]
    exact Notice.locatedIn_at issued.visible first last

end LineLint
