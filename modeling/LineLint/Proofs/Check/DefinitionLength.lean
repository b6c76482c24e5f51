import LineLint.Proofs.Check.Stateless
import LineLint.Proofs.Pattern.Reads
import LineLint.Proofs.Scan.Latest

namespace LineLint.Python

open Pattern

/-- What the line shows begins with the keyword, blanks and the name. -/
def Defines (line : Line) (name : List Char) : Prop :=
  ∃ between rest, strip line = "def".toList ++ between ++ name ++ rest ∧
    CharSet.blank.Spans between ∧ between ≠ [] ∧ IsWord name ∧ CharSet.word.StopsAt rest

def Opens (line : Line) : Prop := ∃ name, Defines line name

def Returns (line : Line) : Prop := "return".toList <+: strip line

/-- The line begins with the keyword and one space, whether or not a name comes next. -/
def BeginsWithKeyword (line : Line) : Prop := "def ".toList <+: strip line

/-- Line `number` is blank and the line after it begins with the keyword. -/
def EndsBefore (all : List Line) (number : Nat) : Prop :=
  strip (lineAt all number) = [] ∧ number < all.length ∧
    BeginsWithKeyword (lineAt all (number + 1 : Nat))

def Closes (all : List Line) (number : Nat) : Prop :=
  Returns (lineAt all number) ∨ EndsBefore all number

section

variable {before taken after : List Char} {kept : Option (List Char)}
variable {line : Line} {name other : List Char}

theorem reads_definition :
    definition.Reads before taken after kept ↔
      before = [] ∧ ∃ between name, taken = "def".toList ++ between ++ name ∧
        CharSet.blank.Spans between ∧ between ≠ [] ∧ IsWord name ∧ kept = some name := by
  simp only [definition, reads_append, reads_atStart, reads_lit, reads_blanks, reads_captureWord,
    existsAndEq, and_true, true_and, Option.or_none, and_assoc]
  constructor
  · rintro ⟨name, between, rfl, rfl, rfl, blank, visible, word⟩
    exact ⟨rfl, between, name, rfl, blank, visible, word, rfl⟩
  · rintro ⟨rfl, between, name, rfl, blank, visible, word, rfl⟩
    exact ⟨name, between, rfl, rfl, rfl, blank, visible, word⟩

theorem Defines.unique (defines : Defines line name) (otherDefines : Defines line other) :
    name = other := by
  obtain ⟨between, rest, whole, blank, -, word, stops⟩ := defines
  obtain ⟨between', rest', whole', blank', -, word', stops'⟩ := otherDefines
  rw [whole'] at whole
  simp only [List.append_assoc, List.append_cancel_left_eq] at whole
  obtain ⟨-, same⟩ := blank'.eq_of_append_eq blank (word'.stopsAt_blank _) (word.stopsAt_blank _)
    whole
  exact (word.1.eq_of_append_eq word'.1 stops stops' same.symm).1

theorem exists_defines_of_search {d : Cursor} (found : definition.search (strip line) = some d) :
    ∃ name, d.captured = some name ∧ Defines line name := by
  obtain ⟨_, _, whole, reads, -⟩ := exists_reads_of_search found
  obtain ⟨rfl, between, name, rfl, blank, visible, word, kept⟩ := reads_definition.mp reads
  exact ⟨name, kept, between, d.after, whole, blank, visible, word, stopsAt_of_search found⟩

theorem captureIn_definition_iff :
    definition.captureIn (strip line) = some name ↔ Defines line name := by
  constructor
  · intro captured
    obtain ⟨d, found, kept⟩ := Option.bind_eq_some_iff.mp captured
    obtain ⟨_, captured, defines⟩ := exists_defines_of_search found
    obtain rfl := Option.some.inj (kept.symm.trans captured)
    exact defines
  · intro defines
    have occurs : definition.occursIn (strip line) = true := by
      obtain ⟨between, rest, whole, blank, visible, word, -⟩ := defines
      exact occursIn_iff_reads.mpr ⟨[], _, rest, some name, whole,
        reads_definition.mpr ⟨rfl, between, name, rfl, blank, visible, word, rfl⟩⟩
    obtain ⟨d, found⟩ := Option.isSome_iff_exists.mp occurs
    obtain ⟨_, captured, otherDefines⟩ := exists_defines_of_search found
    obtain rfl := defines.unique otherDefines
    rw [captureIn, found, Option.bind_some, captured]

theorem captureIn_definition_eq_none_iff :
    definition.captureIn (strip line) = none ↔ ¬ Opens line := by
  rw [Option.eq_none_iff_forall_ne_some, Opens, not_exists]
  simp only [ne_eq, captureIn_definition_iff]

end

instance (line : Line) (name : List Char) : Decidable (Defines line name) :=
  decidable_of_iff _ captureIn_definition_iff

instance (line : Line) : Decidable (Opens line) :=
  decidable_of_iff (¬ definition.captureIn (strip line) = none)
    (not_congr captureIn_definition_eq_none_iff |>.trans not_not)

instance (line : Line) : Decidable (Returns line) :=
  inferInstanceAs (Decidable (_ <+: _))

instance (line : Line) : Decidable (BeginsWithKeyword line) :=
  inferInstanceAs (Decidable (_ <+: _))

instance (all : List Line) (number : Nat) : Decidable (EndsBefore all number) :=
  inferInstanceAs (Decidable (_ ∧ _ ∧ _))

instance (all : List Line) (number : Nat) : Decidable (Closes all number) :=
  inferInstanceAs (Decidable (_ ∨ _))

theorem closes_iff {all : List Line} {number : Nat} :
    closes (lineAt all number) (all.drop number) = true ↔ Closes all number := by
  have next : ((all.drop number).head?.any fun next => "def ".toList.isPrefixOf (strip next)) =
      true ↔ number < all.length ∧ BeginsWithKeyword (lineAt all (number + 1 : Nat)) := by
    rw [List.head?_drop, lineAt_succ]
    by_cases inside : number < all.length
    · simp [inside, BeginsWithKeyword]
    · simp [inside]
  rw [closes, endsBeforeDefinition, Bool.or_eq_true, Bool.and_eq_true, next,
    List.isPrefixOf_iff_prefix, List.isEmpty_iff]
  rfl

/-- While line `number` is read, the definition on line `start` is the one that is open. -/
structure Reaches (all : List Line) (number start : Nat) (name : List Char) : Prop
    extends Latest (fun line : Nat => Opens (lineAt all line)) number start where
  names : Defines (lineAt all start) name
  unclosed : ∀ earlier, start ≤ earlier → earlier < number → ¬ Closes all earlier

/-- The definition on line `start` is still open after line `number`. -/
structure Outlasts (all : List Line) (number start : Nat) (name : List Char) : Prop
    extends Reaches all number start name where
  goes : ¬ Closes all number

/-- The definition on line `start` ends on line `number`. -/
structure EndsAt (all : List Line) (number start : Nat) (name : List Char) : Prop
    extends Reaches all number start name where
  closes : Closes all number

section

variable {all : List Line} {number start : Nat} {name : List Char}

instance : Decidable (EndsAt all number start name) :=
  decidable_of_iff
    ((1 ≤ start ∧ start ≤ number ∧
        ∀ later, start + 1 ≤ later → later < number + 1 → ¬ Opens (lineAt all later)) ∧
      Defines (lineAt all start) name ∧
      (∀ earlier, start ≤ earlier → earlier < number → ¬ Closes all earlier) ∧ Closes all number)
    ⟨fun ⟨⟨first, reached, latest⟩, names, unclosed, closes⟩ =>
      ⟨⟨⟨first, reached, ⟨name, names⟩, fun later after upTo =>
        latest later after (Nat.lt_succ_of_le upTo)⟩, names, unclosed⟩, closes⟩,
    fun ends => ⟨⟨ends.first, ends.reached, fun later after upTo =>
      ends.latest later after (Nat.le_of_lt_succ upTo)⟩, ends.names, ends.unclosed, ends.closes⟩⟩

theorem Reaches.of_defines (defines : Defines (lineAt all (number + 1 : Nat)) name) :
    Reaches all (number + 1) (number + 1) name :=
  ⟨.of_holds ⟨name, defines⟩, defines, fun earlier after upTo => by omega⟩

theorem Outlasts.reaches_succ (outlasts : Outlasts all number start name)
    (quiet : ¬ Opens (lineAt all (number + 1 : Nat))) : Reaches all (number + 1) start name where
  toLatest := outlasts.toLatest.succ quiet
  names := outlasts.names
  unclosed := fun earlier from_ upTo => by
    rcases Nat.lt_or_eq_of_le (Nat.le_of_lt_succ upTo) with before | rfl
    · exact outlasts.unclosed earlier from_ before
    · exact outlasts.goes

/-- A definition that is open on a line that opens none was open after the line before. -/
theorem Reaches.outlasts (reaches : Reaches all (number + 1) start name)
    (quiet : ¬ Opens (lineAt all (number + 1 : Nat))) : Outlasts all number start name := by
  rcases reaches.toLatest.eq_or_of_succ with rfl | ⟨-, last⟩
  · exact absurd reaches.held quiet
  · refine ⟨⟨last, reaches.names, fun earlier from_ upTo => ?_⟩, ?_⟩
    · exact reaches.unclosed earlier from_ (Nat.lt_succ_of_lt upTo)
    · exact reaches.unclosed number last.reached (Nat.lt_succ_self number)

theorem Reaches.unique {otherStart : Nat} {other : List Char}
    (one : Reaches all number start name) (more : Reaches all number otherStart other) :
    start = otherStart ∧ name = other := by
  obtain rfl := one.toLatest.unique more.toLatest
  exact ⟨rfl, one.names.unique more.names⟩

theorem EndsAt.start_lt {later otherStart : Nat} {other : List Char}
    (one : EndsAt all number start name) (more : EndsAt all later otherStart other)
    (order : number < later) : start < otherStart := by
  rcases Nat.lt_or_eq_of_le (one.toLatest.mono more.toLatest (Nat.le_of_lt order)) with
    before | rfl
  · exact before
  · exact absurd one.closes (more.unclosed number one.reached order)

end

def overlongFunction (name : String) (length start : Nat) (line : Line) : Finding :=
  overlong ("Long function '" ++ name ++ "'")
    ("Function has " ++ toString length ++ " lines. Consider breaking it into smaller functions.")
    ("Functions should be kept under " ++ toString 30 ++ " lines for better readability.")
    start line

theorem longFunction_at (name : String) (length start : Nat) (line : Line) :
    (longFunction name length).at start line = overlongFunction name length start line := rfl

/-- The state of the machine where `isOpen` tells which definition is open, if any. -/
inductive Carries (all : List Line) (isOpen : Nat → List Char → Prop) : OpenFunction → Prop
  | opened {start : Nat} {name : List Char} (goes : isOpen start name) :
      Carries all isOpen ⟨true, start, lineAt all start, String.ofList name⟩
  | idle {current : OpenFunction} (outside : current.inside = false)
      (none : ∀ start name, ¬ isOpen start name) : Carries all isOpen current

section

variable {all : List Line} {seen : Nat} {current : OpenFunction}

theorem Carries.enter (carries : Carries all (Outlasts all seen) current) :
    Carries all (Reaches all (seen + 1))
      (current.enter (seen + 1) (lineAt all (seen + 1 : Nat))) := by
  rw [OpenFunction.enter]
  split
  next name captured =>
    exact .opened (.of_defines (captureIn_definition_iff.mp captured))
  next nothing =>
    have quiet := captureIn_definition_eq_none_iff.mp nothing
    cases carries with
    | opened goes => exact .opened (goes.reaches_succ quiet)
    | idle outside none =>
        exact .idle outside fun start name reaches => none start name (reaches.outlasts quiet)

theorem Carries.feed (carries : Carries all (Outlasts all seen) current) :
    Carries all (Outlasts all (seen + 1))
      (current.feed (seen + 1) (lineAt all (seen + 1 : Nat)) (all.drop (seen + 1))).1 := by
  rw [OpenFunction.feed_fst]
  by_cases ends : closes (lineAt all (seen + 1 : Nat)) (all.drop (seen + 1)) = true
  · refine .idle (by rw [ends]; exact Bool.and_false _) fun start name outlasts => ?_
    exact outlasts.goes (closes_iff.mp ends)
  · have goes := mt closes_iff.mpr ends
    rw [Bool.not_eq_true] at ends
    have carries := carries.enter
    generalize current.enter (seen + 1) (lineAt all (seen + 1 : Nat)) = entered at carries
    simp only [ends, Bool.not_false, Bool.and_true]
    cases carries with
    | opened reaches => exact .opened ⟨reaches, goes⟩
    | idle outside none =>
        exact .idle outside fun start name outlasts => none start name outlasts.toReaches

theorem Carries.mem_feed_iff (carries : Carries all (Outlasts all seen) current)
    {finding : Finding} :
    finding ∈ (current.feed (seen + 1) (lineAt all (seen + 1 : Nat)) (all.drop (seen + 1))).2 ↔
      ∃ start name, EndsAt all (seen + 1) start name ∧ functionLimit < seen + 1 - start ∧
        finding = overlongFunction (String.ofList name) (seen + 1 - start) start
          (lineAt all start) := by
  rw [OpenFunction.feed_snd]
  have carries := carries.enter
  generalize current.enter (seen + 1) (lineAt all (seen + 1 : Nat)) = entered at carries
  cases carries with
  | @opened start name reaches =>
      simp only [Bool.true_and, closes_iff, OpenFunction.report, longFunction_at,
        List.mem_ite_nil_right, List.mem_singleton]
      constructor
      · rintro ⟨closes, long, rfl⟩
        exact ⟨start, name, ⟨reaches, closes⟩, long, rfl⟩
      · rintro ⟨other, otherName, ends, long, rfl⟩
        obtain ⟨rfl, rfl⟩ := reaches.unique ends.toReaches
        exact ⟨ends.closes, long, rfl⟩
  | idle outside none =>
      rw [outside, Bool.false_and, if_neg Bool.false_ne_true]
      constructor
      · intro member
        cases member
      · rintro ⟨start, name, ends, -⟩
        exact absurd ends.toReaches (none start name)

theorem length_feed_le (current : OpenFunction) (number : Nat) (line : Line) (rest : List Line) :
    (current.feed number line rest).2.length ≤ 1 := by
  rw [OpenFunction.feed_snd]
  split
  · rw [OpenFunction.report]
    split <;> simp
  · exact Nat.zero_le 1

theorem carries_stateAfter (all : List Line) (seen : Nat) :
    Carries all (Outlasts all seen) (machine.stateAfter all seen) := by
  apply Machine.stateAfter_invariant
  · refine .idle rfl fun start name outlasts => ?_
    exact absurd outlasts.reached (Nat.not_le.mpr outlasts.first)
  · intro seen current carries
    exact carries.feed

end

def lengthReports (all : List Line) (number : Nat) : List Finding :=
  (machine.reportAt all number).filter fun finding => isLongFunction finding.message

theorem lengthReports_eq (all : List Line) (number : Nat) :
    lengthReports all number =
      ((machine.stateAfter all (number - 1)).feed number (lineAt all number)
        (all.drop number)).2 := by
  have others : ∀ rule ∈ rules, isLongFunction rule.message = false := by decide
  have reported : machine.reportAt all number =
      Rule.check rules number (lineAt all number) ++
        ((machine.stateAfter all (number - 1)).feed number (lineAt all number)
          (all.drop number)).2 := rfl
  have long : ∀ current : OpenFunction,
      (current.report number).filter (fun finding => isLongFunction finding.message) =
        current.report number := by
    intro current
    rw [OpenFunction.report]
    split <;> simp [isLongFunction_longFunction]
  rw [lengthReports, reported, List.filter_append, Rule.filter_message_check number _ others,
    List.nil_append, OpenFunction.feed_snd]
  split <;> simp [long]

theorem mem_lengthReports_iff {all : List Line} {number : Nat} {finding : Finding} :
    finding ∈ lengthReports all number ↔
      ∃ start name, EndsAt all number start name ∧ functionLimit < number - start ∧
        finding = overlongFunction (String.ofList name) (number - start) start
          (lineAt all start) := by
  rw [lengthReports_eq]
  cases number with
  | zero =>
      -- before the first line nothing is open
      constructor
      · intro member
        cases member
      · rintro ⟨start, name, ends, -⟩
        exact absurd ends.reached (Nat.not_le.mpr ends.first)
  | succ seen => exact (carries_stateAfter all seen).mem_feed_iff

theorem length_lengthReports_le (all : List Line) (number : Nat) :
    (lengthReports all number).length ≤ 1 := by
  rw [lengthReports_eq]
  exact length_feed_le ..

def longReports (text : List Char) : List Finding :=
  (check text).filter fun finding => isLongFunction finding.message

theorem longReports_eq_flatMap (text : List Char) :
    longReports text = (lineNumbers (lines text)).flatMap (lengthReports (lines text)) := by
  rw [longReports, check, Machine.run_eq_flatMap, List.filter_flatMap]
  rfl

theorem Closes.le_length {all : List Line} {number : Nat} (closes : Closes all number) :
    number ≤ all.length := by
  rcases closes with returns | ⟨-, inside, -⟩
  · rw [← Nat.not_lt]
    intro beyond
    obtain ⟨position, rfl⟩ := Nat.exists_eq_add_of_le' (Nat.one_le_of_lt beyond)
    rw [lineAt_of_le (Nat.le_of_lt_succ beyond)] at returns
    cases List.prefix_nil.mp returns
  · exact Nat.le_of_lt inside

theorem mem_longReports_iff {text : List Char} {finding : Finding} :
    finding ∈ longReports text ↔ ∃ number, finding ∈ lengthReports (lines text) number := by
  rw [longReports_eq_flatMap, List.mem_flatMap]
  constructor
  · rintro ⟨number, -, member⟩
    exact ⟨number, member⟩
  · rintro ⟨number, member⟩
    obtain ⟨start, name, ends, -⟩ := mem_lengthReports_iff.mp member
    exact ⟨number, mem_lineNumbers.mpr
      ⟨Nat.le_trans ends.first ends.reached, ends.closes.le_length⟩, member⟩

theorem pairwise_longReports (text : List Char) :
    (longReports text).Pairwise (·.line < ·.line) := by
  rw [longReports_eq_flatMap, List.pairwise_flatMap]
  constructor
  · intro number _
    have short := length_lengthReports_le (lines text) number
    cases reported : lengthReports (lines text) number with
    | nil => exact .nil
    | cons finding others =>
        rw [reported, List.length_cons] at short
        rw [List.eq_nil_of_length_eq_zero (by omega : others.length = 0)]
        exact List.pairwise_singleton _ _
  · refine (rising_lineNumbers _).imp ?_
    intro number later order finding member other otherMember
    obtain ⟨start, name, ends, -, rfl⟩ := mem_lengthReports_iff.mp member
    obtain ⟨otherStart, otherName, otherEnds, -, rfl⟩ := mem_lengthReports_iff.mp otherMember
    exact Int.ofNat_lt.mpr (ends.start_lt otherEnds order)

theorem EndsAt.number_unique {all : List Line} {number other start : Nat} {name more : List Char}
    (one : EndsAt all number start name) (otherEnds : EndsAt all other start more) :
    number = other := by
  rcases Nat.lt_trichotomy number other with before | same | after
  · exact absurd (one.start_lt otherEnds before) (Nat.lt_irrefl start)
  · exact same
  · exact absurd (otherEnds.start_lt one after) (Nat.lt_irrefl start)

theorem exists_longReport_iff {text : List Char} {start : Nat} :
    (∃ finding ∈ longReports text, finding.line = start) ↔
      ∃ number name, EndsAt (lines text) number start name ∧ functionLimit < number - start := by
  simp only [mem_longReports_iff, mem_lengthReports_iff]
  constructor
  · rintro ⟨_, ⟨number, other, name, ends, long, rfl⟩, here⟩
    obtain rfl : other = start := Int.ofNat_inj.mp here
    exact ⟨number, name, ends, long⟩
  · rintro ⟨number, name, ends, long⟩
    exact ⟨_, ⟨number, start, name, ends, long, rfl⟩, rfl⟩

/-- While a line is read, a long function is reported exactly if a definition ends there that starts
more than 30 lines above: the last one up to that line, where no line closes on the way. So the
reports are on lines of their own, a definition that ends nearer is not reported, and neither is one
that never ends. -/
theorem long_definition_reports (text : List Char) :
    (∀ number finding, finding ∈ lengthReports (lines text) number ↔
      ∃ start name, EndsAt (lines text) number start name ∧ 30 < number - start ∧
        finding = overlongFunction (String.ofList name) (number - start) start
          (lineAt (lines text) start)) ∧
    (∀ number, (lengthReports (lines text) number).length ≤ 1) ∧
    longReports text = (lineNumbers (lines text)).flatMap (lengthReports (lines text)) ∧
    (longReports text).Pairwise (·.line < ·.line) ∧
    (∀ number start name, EndsAt (lines text) number start name →
      ((∃ finding ∈ longReports text, finding.line = start) ↔ 30 < number - start)) ∧
    ∀ start : Nat, (∀ number name, ¬ EndsAt (lines text) number start name) →
      ∀ finding ∈ longReports text, finding.line ≠ start := by
  refine ⟨fun number finding => mem_lengthReports_iff, length_lengthReports_le _,
    longReports_eq_flatMap text, pairwise_longReports text, ?_, ?_⟩
  · intro number start name ends
    rw [exists_longReport_iff]
    constructor
    · rintro ⟨other, _, otherEnds, long⟩
      rwa [ends.number_unique otherEnds]
    · exact fun long => ⟨number, name, ends, long⟩
  · intro start never finding member here
    obtain ⟨number, name, ends, -⟩ := exists_longReport_iff.mp ⟨finding, member, here⟩
    exact never number name ends

/-- A definition inside another ends at its return, which leaves the outer one without an end. -/
theorem long_definition_reports_of_nested :
    let text := "def outer():\n    def inner(a):\n".toList ++
      (List.replicate 30 "        x\n".toList).flatten ++ "        return a\n    return 0".toList
    EndsAt (lines text) 33 2 "inner".toList ∧ (∀ number name, ¬ EndsAt (lines text) number 1 name) ∧
      (∃ finding ∈ longReports text, finding.line = 2) ∧
      ∀ finding ∈ longReports text, finding.line ≠ 1 := by
  intro text
  have inner : EndsAt (lines text) 33 2 "inner".toList := by decide +kernel
  have outer : ∀ number name, ¬ EndsAt (lines text) number 1 name := by
    intro number name ends
    by_cases nested : number < 2
    · obtain rfl : number = 1 := Nat.le_antisymm (Nat.le_of_lt_succ nested) ends.reached
      exact absurd ends.closes (by decide +kernel)
    · exact ends.latest 2 (by decide) (Nat.le_of_not_lt nested) (by decide +kernel)
  obtain ⟨-, -, -, -, reported, unreported⟩ := long_definition_reports text
  exact ⟨inner, outer, (reported 33 2 _ inner).mpr (by decide), unreported 1 outer⟩

end LineLint.Python
