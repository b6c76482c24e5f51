import LineLint.Proofs.Check.ByLine
import LineLint.Proofs.Check.Stateless
import LineLint.Proofs.Pattern.Reads
import LineLint.Proofs.Text.Seam

namespace LineLint.Java

/-- Some line of the window at a number holds the token. -/
def WindowHolds (token : String) (all : List Line) (number : Nat) : Prop :=
  ∃ line ∈ view 2 all number, token.toList <:+: line

/-- A line of the window at a number ends in `null`, and the next one there begins with `check`. -/
def ChecksAcross (all : List Line) (number : Nat) : Prop :=
  ∃ former latter, [former, latter] <:+: view 2 all number ∧ "null".toList <:+ former ∧
    "check".toList <+: latter

variable {all : List Line} {number : Nat}

theorem window_eq_joinWith (inside : number ∈ lineNumbers all) :
    window (lineAt all number) (all.drop number) = joinWith ' ' (view 2 all number) := by
  rw [window, intercalate_eq_joinWith, view_eq_cons inside]

theorem mentions_window_get (inside : number ∈ lineNumbers all) :
    mentions (window (lineAt all number) (all.drop number)) "get" = true ↔
      WindowHolds "get" all number := by
  have nonempty : view 2 all number ≠ [] := by
    rw [view_eq_cons inside]
    exact List.cons_ne_nil _ _
  rw [mentions_iff, window_eq_joinWith inside, infix_joinWith_iff_of_not_mem (by decide) nonempty,
    WindowHolds]

theorem mentions_window_nullCheck (inside : number ∈ lineNumbers all) :
    mentions (window (lineAt all number) (all.drop number)) "null check" = true ↔
      WindowHolds "null check" all number ∨ ChecksAcross all number := by
  have parts : "null check".toList = "null".toList ++ ' ' :: "check".toList := by decide
  rw [mentions_iff, window_eq_joinWith inside, WindowHolds, parts,
    infix_joinWith_iff (by decide) (by decide), ChecksAcross]

theorem risksNull_iff (inside : number ∈ lineNumbers all) :
    risksNull (lineAt all number) (all.drop number) = true ↔
      dereferences (lineAt all number) = true ∧ declaresNonNull (lineAt all number) = false ∧
        WindowHolds "get" all number ∧ ¬ WindowHolds "null check" all number ∧
        ¬ ChecksAcross all number := by
  rw [risksNull, Bool.and_eq_true, Bool.and_eq_true, Bool.and_eq_true, Bool.not_eq_true',
    Bool.not_eq_true', ← Bool.not_eq_true (mentions _ "null check"), mentions_window_get inside,
    mentions_window_nullCheck inside, not_or, and_assoc, and_assoc]

/-- The text ends in a call of `toString`, or in one, blanks and a semicolon. -/
def EndsInToString (text : List Char) : Prop :=
  ∃ ending, ".toString()".toList ++ ending <:+ text ∧
    (ending = [] ∨ ∃ blanks, CharSet.blank.Spans blanks ∧ ending = blanks ++ [';'])

theorem occursIn_endsInToString {line : Line} :
    endsInToString.occursIn (strip line) = true ↔ EndsInToString (strip line) := by
  simp only [Pattern.occursIn_iff_reads, endsInToString, Pattern.reads_append, Pattern.reads_lit,
    Pattern.reads_gap, Pattern.reads_optional, Pattern.reads_atEnd, existsAndEq, and_true, true_and,
    Option.none_or, and_assoc, ← or_and_right, List.append_nil]
  constructor
  · rintro ⟨before, trail, semicolon, blanks, whole, blank, marked, trailBlank⟩
    have split : strip line = (before ++ ".toString()".toList ++ blanks ++ semicolon) ++ trail := by
      rw [whole]
      simp only [List.append_assoc]
    obtain rfl := eq_nil_of_strip_eq_append split trailBlank
    rw [List.append_nil] at split
    rcases marked with rfl | rfl
    · exact ⟨blanks ++ [';'], ⟨before, by simp [split]⟩, .inr ⟨blanks, blank, rfl⟩⟩
    · rw [List.append_nil] at split
      obtain rfl := eq_nil_of_strip_eq_append split blank
      exact ⟨[], ⟨before, by simp [split]⟩, .inl rfl⟩
  · rintro ⟨_, ⟨before, whole⟩, rfl | ⟨blanks, blank, rfl⟩⟩
    · exact ⟨before, [], [], [], by simp [← whole], CharSet.spans_nil _, .inr rfl,
        CharSet.spans_nil _⟩
    · exact ⟨before, [], [';'], blanks, by simp [← whole], blank, .inl rfl, CharSet.spans_nil _⟩

/-- The lines at a number call for a report of a null pointer: the line calls a method on what may
be null, a line near it gets something, and no check is spoken of. -/
structure RisksNull (all : List Line) (number : Nat) : Prop where
  calls : ".equals(".toList <:+: lineAt all number ∨ EndsInToString (strip (lineAt all number))
  unrequired : ¬ "Objects.requireNonNull".toList <:+: lineAt all number
  undeclared : ¬ "@NonNull".toList <:+: lineAt all number
  gets : ∃ near, InView 2 all number near ∧ "get".toList <:+: lineAt all near
  unchecked : ∀ near, InView 2 all number near → ¬ "null check".toList <:+: lineAt all near
  apart : ∀ near, InView 2 all number near → InView 2 all number (near + 1) →
    ¬ ("null".toList <:+ lineAt all near ∧ "check".toList <+: lineAt all (near + 1 : Nat))

theorem windowHolds_iff {token : String} (inside : number ∈ lineNumbers all) :
    WindowHolds token all number ↔
      ∃ near, InView 2 all number near ∧ token.toList <:+: lineAt all near := by
  simp only [WindowHolds, mem_view_iff inside]
  constructor
  · rintro ⟨_, ⟨near, seen, rfl⟩, held⟩
    exact ⟨near, seen, held⟩
  · rintro ⟨near, seen, held⟩
    exact ⟨_, ⟨near, seen, rfl⟩, held⟩

theorem checksAcross_iff (inside : number ∈ lineNumbers all) :
    ChecksAcross all number ↔
      ∃ near, InView 2 all number near ∧ InView 2 all number (near + 1) ∧
        "null".toList <:+ lineAt all near ∧ "check".toList <+: lineAt all (near + 1 : Nat) := by
  simp only [ChecksAcross, pair_infix_view_iff inside]
  constructor
  · rintro ⟨_, _, ⟨near, here, next, rfl, rfl⟩, ends, starts⟩
    exact ⟨near, here, next, ends, starts⟩
  · rintro ⟨near, here, next, ends, starts⟩
    exact ⟨_, _, ⟨near, here, next, rfl, rfl⟩, ends, starts⟩

theorem dereferences_iff {line : Line} :
    dereferences line = true ↔
      ".equals(".toList <:+: line ∨ EndsInToString (strip line) := by
  rw [dereferences, Bool.or_eq_true, occursIn_endsInToString, mentions_iff, or_comm]

theorem declaresNonNull_eq_false_iff {line : Line} :
    declaresNonNull line = false ↔
      ¬ "Objects.requireNonNull".toList <:+: line ∧ ¬ "@NonNull".toList <:+: line := by
  rw [← Bool.not_eq_true, declaresNonNull, Bool.or_eq_true, mentions_iff, mentions_iff, not_or]

theorem risksNull_eq_true_iff (inside : number ∈ lineNumbers all) :
    risksNull (lineAt all number) (all.drop number) = true ↔ RisksNull all number := by
  rw [risksNull_iff inside, dereferences_iff, declaresNonNull_eq_false_iff, windowHolds_iff inside,
    windowHolds_iff inside, checksAcross_iff inside]
  constructor
  · intro ⟨calls, ⟨unrequired, undeclared⟩, gets, unchecked, apart⟩
    refine ⟨calls, unrequired, undeclared, gets, ?_, ?_⟩
    · intro near seen held
      exact unchecked ⟨near, seen, held⟩
    · intro near here next words
      exact apart ⟨near, here, next, words⟩
  · intro risks
    refine ⟨risks.calls, ⟨risks.unrequired, risks.undeclared⟩, risks.gets, ?_, ?_⟩
    · intro ⟨near, seen, held⟩
      exact risks.unchecked near seen held
    · intro ⟨near, here, next, words⟩
      exact risks.apart near here next words

theorem RisksNull.inside (risks : RisksNull all number) : number ∈ lineNumbers all := by
  by_contra outside
  have calls := risks.calls
  rw [lineAt_of_not_mem outside, ← dereferences_iff] at calls
  cases calls.symm.trans (by decide : dereferences [] = false)

def isNullPointer (message : String) : Bool := message == "Potential NullPointerException"

def risksOn (text : List Char) (number : Nat) : List Finding :=
  ((check text).filter (·.isOn number)).filter (isNullPointer ·.message)

theorem filter_isNullPointer_localCheck (line : Line) (rest : List Line) :
    (localCheck number line rest).filter (isNullPointer ·.message) =
      nullPointerRisks number line rest := by
  have reported : isNullPointer nullPointerRisk.message = true := by decide
  rw [localCheck, suppressions_eq]
  simp only [List.filter_append]
  rw [Rule.filter_message_check _ _ (by decide), Rule.filter_message_check _ _ (by decide),
    Rule.filter_message_check _ _ (by decide), Notice.filter_message_ite_at (by decide),
    nullPointerRisks]
  split <;> simp [reported]

theorem isStateful_of_isNullPointer (message : String) (names : isNullPointer message = true) :
    isStateful message = false := by
  rw [eq_of_beq names]
  decide

theorem risksOn_eq {text : List Char} (inside : number ∈ lineNumbers (lines text)) :
    risksOn text number =
      nullPointerRisks number (lineAt (lines text) number) ((lines text).drop number) := by
  rw [risksOn, List.filter_comm, ← filter_message_isStateless isStateful_of_isNullPointer,
    filter_isStateless, List.filter_comm, isLocal_localCheck.filter_isOn_scan inside,
    filter_isNullPointer_localCheck]

/-- A line is reported for a null pointer if it calls for it, once, and no other line is. -/
theorem null_pointer_risk_reported (text : List Char) (number : Nat) :
    (RisksNull (lines text) number ↔
      risksOn text number = [nullPointerRisk.at number (lineAt (lines text) number)]) ∧
    (¬ RisksNull (lines text) number ↔ risksOn text number = []) := by
  by_cases inside : number ∈ lineNumbers (lines text)
  · rw [risksOn_eq inside, nullPointerRisks, ← risksNull_eq_true_iff inside]
    split
    next risks => exact ⟨iff_of_true risks rfl, iff_of_false (not_not_intro risks) (by simp)⟩
    next safe => exact ⟨iff_of_false safe (by simp), iff_of_true safe rfl⟩
  · have nothing : risksOn text number = [] := by
      rw [risksOn, (allFiled_check text).filter_isOn_of_not_mem inside, List.filter_nil]
    have safe : ¬ RisksNull (lines text) number := mt RisksNull.inside inside
    rw [nothing]
    exact ⟨iff_of_false safe (by simp), iff_of_true safe rfl⟩

end LineLint.Java
