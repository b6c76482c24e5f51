import LineLint.Proofs.Check.LineEnd
import LineLint.Proofs.Check.NullPointer
import LineLint.Proofs.Pattern.Reads

namespace LineLint

/-- The second list has the findings of the first, in their order, and those that are added. -/
structure Gains (added : Finding → Prop) (before after : List Finding) : Prop where
  kept : before.Sublist after
  mem_iff : ∀ finding, finding ∈ after ↔ finding ∈ before ∨ added finding
  eq_iff : after = before ↔ ∀ finding, ¬ added finding

namespace Gains

variable {added more : Finding → Prop} {before after first second : List Finding}

theorem nothing (findings : List Finding) : Gains (fun _ => False) findings findings where
  kept := List.Sublist.refl findings
  mem_iff _ := (or_false _).symm.to_iff
  eq_iff := iff_of_true rfl fun _ => id

theorem append (gains : Gains added before after) (others : Gains more first second) :
    Gains (fun finding => added finding ∨ more finding) (before ++ first) (after ++ second) where
  kept := gains.kept.append others.kept
  mem_iff finding := by
    rw [List.mem_append, List.mem_append, gains.mem_iff, others.mem_iff, or_or_or_comm]
  eq_iff := by
    simp only [not_or, forall_and, ← gains.eq_iff, ← others.eq_iff]
    constructor
    · intro same
      have counts := congrArg List.length same
      have count := gains.kept.length_le
      have others := others.kept.length_le
      simp only [List.length_append] at counts
      exact List.append_inj same (by omega)
    · rintro ⟨rfl, rfl⟩
      rfl

theorem congr (gains : Gains added before after) (same : ∀ finding, added finding ↔ more finding) :
    Gains more before after where
  kept := gains.kept
  mem_iff finding := by rw [gains.mem_iff, same]
  eq_iff := by simp only [gains.eq_iff, same]

theorem flatMap {added : Nat → Finding → Prop} {before after : Nat → List Finding}
    {numbers : List Nat}
    (each : ∀ number ∈ numbers, Gains (added number) (before number) (after number)) :
    Gains (fun finding => ∃ number ∈ numbers, added number finding) (numbers.flatMap before)
      (numbers.flatMap after) := by
  induction numbers with
  | nil => exact (nothing []).congr fun _ => by simp
  | cons number rest induction =>
      simp only [List.mem_cons, forall_eq_or_imp] at each
      simp only [List.flatMap_cons, List.mem_cons, exists_eq_or_imp]
      exact each.1.append (induction each.2)

theorem ite {reported also added : Prop} [Decidable reported] [Decidable also] (finding : Finding)
    (grows : also ↔ reported ∨ added) (fresh : added → ¬ reported) :
    Gains (fun other => other = finding ∧ added) (if reported then [finding] else [])
      (if also then [finding] else []) := by
  by_cases here : added
  · rw [if_neg (fresh here), if_pos (grows.mpr (.inr here))]
    exact {
      kept := List.nil_sublist _
      mem_iff := fun other => by simp [here]
      eq_iff := by simp [here] }
  · have same : also ↔ reported := by rw [grows, or_iff_left here]
    simp only [same]
    exact (nothing _).congr fun other => by simp [here]

end Gains

section

variable {x : Char} {all : List Line}

theorem ended_lineAt_endLines (all : List Line) (number : Nat) :
    Ended x (lineAt all number) (lineAt (endLines x all) number) := by
  cases number with
  | zero => exact .bare []
  | succ position =>
      rw [lineAt_succ, lineAt_succ]
      induction all generalizing position with
      | nil => exact .bare []
      | cons line rest induction =>
          cases rest with
          | nil => exact .bare _
          | cons next rest =>
              cases position with
              | zero => exact .ended line
              | succ position => exact induction position

theorem BraceSpan.Tracker.alike_after {spelling : FunctionSyntax}
    (blank : isBlank x = true) (ignores : spelling.ignoresLast x = true) (all : List Line)
    (seen : Nat) :
    Tracker.Alike x (after spelling all seen) (after spelling (endLines x all) seen) := by
  induction seen with
  | zero => exact .header (.bare [])
  | succ seen induction =>
      exact (induction.feed blank ignores (seen + 1) (ended_lineAt_endLines all (seen + 1))).1

theorem lineNumbers_endLines (all : List Line) :
    lineNumbers (endLines x all) = lineNumbers all := by
  rw [lineNumbers, lineNumbers, length_endLines]

theorem any_mentions_ended {token : String} {others : List Line} (absent : x ∉ token.toList)
    (ends : List.Forall₂ (Ended x) all others) :
    others.any (mentions · token) = all.any (mentions · token) := by
  induction ends with
  | nil => rfl
  | @cons line other rest later here ends induction =>
      have same : mentions other token = mentions line token :=
        @Ended.eq_of_append x line other _ (mentions · token) (mentions_append absent line) here
      rw [List.any_cons, List.any_cons, same, induction]

theorem exists_infix_ended {token : String} {others : List Line} (absent : x ∉ token.toList)
    (ends : List.Forall₂ (Ended x) all others) :
    (∃ line ∈ others, token.toList <:+: line) ↔ ∃ line ∈ all, token.toList <:+: line := by
  simp only [← mentions_iff, ← List.any_eq_true, any_mentions_ended absent ends]

theorem exists_append_of_pair {former latter : Line} (pair : [former, latter] <:+: endLines x all) :
    ∃ line, former = line ++ [x] := by
  induction all with
  | nil => simp [endLines] at pair
  | cons line rest induction =>
      cases rest with
      | nil => simp [endLines, List.infix_cons_iff] at pair
      | cons next rest =>
          rw [endLines_cons (List.cons_ne_nil next rest), List.infix_cons_iff,
            List.cons_prefix_cons] at pair
          rcases pair with ⟨rfl, -⟩ | later
          · exact ⟨line, rfl⟩
          · exact induction later

theorem view_endLines (reach : Nat) (all : List Line) (number : Nat) :
    view reach (endLines x all) number = (endLines x (all.drop (number - 1))).take (reach + 1) := by
  rw [view, drop_endLines]

/-- Whether an empty line is next and another line follows. -/
def leadsEmpty : List Line → Bool
  | [] :: _ :: _ => true
  | _ => false

/-- The line after a line is empty, and it is not the last one. -/
structure BeforeEmpty (all : List Line) (number : Nat) : Prop where
  further : number + 1 < all.length
  empty : lineAt all (number + 1 : Nat) = []

theorem leadsEmpty_eq_true_iff {rest : List Line} :
    leadsEmpty rest = true ↔ rest.head? = some [] ∧ 1 < rest.length := by
  rcases rest with _ | ⟨_ | ⟨c, line⟩, _ | ⟨next, rest⟩⟩ <;> simp [leadsEmpty]

theorem leadsEmpty_drop_iff {number : Nat} :
    leadsEmpty (all.drop number) = true ↔ BeforeEmpty all number := by
  rw [leadsEmpty_eq_true_iff, List.head?_drop, List.length_drop]
  constructor
  · rintro ⟨next, more⟩
    refine ⟨by omega, ?_⟩
    rw [lineAt_succ, List.getD_eq_getElem?_getD, next]
    rfl
  · rintro ⟨further, empty⟩
    refine ⟨?_, by omega⟩
    rw [lineAt_of_lt (by omega)] at empty
    rw [List.getElem?_eq_getElem (by omega), empty]

/-- A test on the next lines that passes over an empty line as long as the character is not in
it. -/
structure PassesEmpty (x : Char) (told : List Line → Bool) : Prop where
  ended : ∀ rest, told (endLines x rest) = (told rest || leadsEmpty rest)
  passed : ∀ rest, leadsEmpty rest = true → told rest = false

theorem gains_of_passesEmpty {notice : Notice} {calls : Line → Bool} {told : List Line → Bool}
    (blank : isBlank x = true) (ignores : notice.ignoresLast x = true)
    (called : ∀ line, calls (line ++ [x]) = calls line) (passes : PassesEmpty x told)
    (number : Nat) :
    Gains
      (fun finding => finding = notice.at number (lineAt all number) ∧
        calls (lineAt all number) = true ∧ BeforeEmpty all number)
      (if calls (lineAt all number) && told (all.drop number) then
        [notice.at number (lineAt all number)] else [])
      (if calls (lineAt (endLines x all) number) && told ((endLines x all).drop number) then
        [notice.at number (lineAt (endLines x all) number)] else []) := by
  have ends := @ended_lineAt_endLines x all number
  rw [ends.eq_of_append (called _), ends.eq_of_append (Notice.at_append blank ignores number _),
    drop_endLines, passes.ended, Bool.and_or_distrib_left]
  apply Gains.ite
  · rw [Bool.or_eq_true, Bool.and_eq_true (calls _) (leadsEmpty _), leadsEmpty_drop_iff]
  · rintro ⟨-, before⟩
    rw [passes.passed _ (leadsEmpty_drop_iff.mpr before), Bool.and_false]
    exact Bool.false_ne_true

end

namespace Go

/-- What is reported on a line if lines end in carriage returns, and is not if they do not. -/
inductive AddedOn (all : List Line) (number : Nat) : Finding → Prop
  | error (assigns : errorAssignment.occursIn (lineAt all number) = true)
      (before : BeforeEmpty all number) :
      AddedOn all number (uncheckedError.at number (lineAt all number))
  | parse (parses : numberParse.occursIn (lineAt all number) = true)
      (before : BeforeEmpty all number) :
      AddedOn all number (uncheckedParse.at number (lineAt all number))

section

variable {x : Char} {tokens : List String} {rest : List Line}

theorem any_mentions_append (unsaid : ∀ token ∈ tokens, x ∉ token.toList) (line : Line) :
    (tokens.any fun token => mentions (line ++ [x]) token) =
      tokens.any fun token => mentions line token := by
  rw [Bool.eq_iff_iff, List.any_eq_true, List.any_eq_true]
  apply exists_congr
  intro token
  apply and_congr_right
  intro listed
  rw [mentions_append (unsaid token listed)]

/-- A line with nothing in it but the character counts as a line with text. -/
theorem nextLacks_endLines (unsaid : ∀ token ∈ tokens, x ∉ token.toList)
    (visible : ∀ token ∈ tokens, mentions [] token = false) (rest : List Line) :
    nextLacks tokens (endLines x rest) = (nextLacks tokens rest || leadsEmpty rest) := by
  have silent : (tokens.any fun token => mentions [] token) = false := by
    rw [List.any_eq_false]
    intro token listed
    rw [visible token listed]
    exact Bool.false_ne_true
  rcases rest with _ | ⟨next, _ | ⟨second, rest⟩⟩
  · rfl
  · cases next <;> simp [endLines, leadsEmpty]
  · have seen : nextLacks tokens (endLines x (next :: second :: rest)) =
        !tokens.any fun token => mentions next token := by
      rw [endLines_cons (List.cons_ne_nil second rest), ← any_mentions_append unsaid next]
      change (!(next ++ [x]).isEmpty && _) = _
      rw [List.isEmpty_eq_false_iff.mpr (by simp), Bool.not_false, Bool.true_and]
    rw [seen]
    cases next with
    | nil =>
        rw [silent]
        rfl
    | cons c next => exact (Bool.or_false _).symm

theorem passesEmpty_nextLacks (unsaid : ∀ token ∈ tokens, x ∉ token.toList)
    (visible : ∀ token ∈ tokens, mentions [] token = false) :
    PassesEmpty x (nextLacks tokens) where
  ended := nextLacks_endLines unsaid visible
  passed rest leads := by
    rw [nextLacks, (leadsEmpty_eq_true_iff.mp leads).1]
    rfl

end

theorem isMainPackage_writeBreaks (text : List Char) :
    isMainPackage (writeBreaks .both text) = isMainPackage text := by
  rw [isMainPackage, isMainPackage, lines_writeBreaks]
  exact any_mentions_ended (by decide) (forall₂_ended_endLines (lines text))

theorem gains_lineCheck (all : List Line) (mainPackage : Bool) (number : Nat) :
    Gains (AddedOn all number) (lineCheck mainPackage number (lineAt all number) (all.drop number))
      (lineCheck mainPackage number (lineAt (endLines '\r' all) number)
        ((endLines '\r' all).drop number)) := by
  have blank : isBlank '\r' = true := by decide
  have ends := @ended_lineAt_endLines '\r' all number
  have assigned : ∀ line, errorAssignment.occursIn (line ++ ['\r']) =
      errorAssignment.occursIn line := by
    intro line
    simp only [errorAssignment, Pattern.occursIn_append_gap]
    exact Pattern.occursIn_append (by decide) line
  have parsed : ∀ line, numberParse.occursIn (line ++ ['\r']) = numberParse.occursIn line :=
    fun line => Pattern.occursIn_append (by decide) line
  have printing : ∀ rule ∈ printRules mainPackage, rule.ignoresLast '\r' = true := by
    cases mainPackage <;> decide
  have errors := @gains_of_passesEmpty '\r' all uncheckedError errorAssignment.occursIn
    (nextLacks ["if err != nil", "return err"]) blank (by decide) assigned
    (passesEmpty_nextLacks (by decide) (by decide)) number
  have parses := @gains_of_passesEmpty '\r' all uncheckedParse numberParse.occursIn
    (nextLacks ["if err != nil"]) blank (by decide) parsed
    (passesEmpty_nextLacks (by decide) (by decide)) number
  unfold lineCheck
  rw [Rule.check_ended blank printing number ends, Rule.check_ended blank (by decide) number ends]
  refine ((((Gains.nothing _).append errors).append (.nothing _)).append parses).congr ?_
  intro finding
  constructor
  · rintro (((⟨⟨⟩⟩ | ⟨rfl, assigns, before⟩) | ⟨⟨⟩⟩) | ⟨rfl, parses, before⟩)
    · exact .error assigns before
    · exact .parse parses before
  · rintro (⟨assigns, before⟩ | ⟨parses, before⟩)
    · exact .inl (.inl (.inr ⟨rfl, assigns, before⟩))
    · exact .inr ⟨rfl, parses, before⟩

theorem gains_check (text : List Char) :
    Gains (fun finding => ∃ number ∈ lineNumbers (lines text), AddedOn (lines text) number finding)
      (check text) (check (writeBreaks .both text)) := by
  rw [check, check, isMainPackage_writeBreaks, scan_eq_flatMap, scan_eq_flatMap, lines_writeBreaks,
    lineNumbers_endLines]
  exact .flatMap fun number _ => gains_lineCheck (lines text) (isMainPackage text) number

end Go

namespace Java

/-- What is reported on a line if lines end in carriage returns, and is not if they do not. -/
inductive AddedOn (all : List Line) (number : Nat) : Finding → Prop
  | suppression (suppresses : suppression.occursIn (lineAt all number) = true)
      (before : BeforeEmpty all number) :
      AddedOn all number (suppressedWarnings.at number (lineAt all number))
  | risk (calls : dereferences (lineAt all number) = true)
      (unguarded : declaresNonNull (lineAt all number) = false)
      (gets : WindowHolds "get" all number) (unsaid : ¬ WindowHolds "null check" all number)
      (across : ChecksAcross all number) :
      AddedOn all number (nullPointerRisk.at number (lineAt all number))

section

variable {x : Char} {all : List Line} {number : Nat}

theorem windowHolds_endLines {token : String} (absent : x ∉ token.toList) :
    WindowHolds token (endLines x all) number ↔ WindowHolds token all number := by
  rw [WindowHolds, view_endLines]
  exact exists_infix_ended absent (List.forall₂_take 3 (forall₂_ended_endLines _))

theorem not_checksAcross_endLines (absent : x ∉ "null".toList) :
    ¬ ChecksAcross (endLines x all) number := by
  rintro ⟨former, latter, pair, ends, -⟩
  rw [view_endLines] at pair
  obtain ⟨line, rfl⟩ := exists_append_of_pair (pair.trans (List.take_prefix _ _).isInfix)
  rcases List.suffix_concat_iff.mp ends with nothing | ⟨shorter, same, -⟩
  · cases nothing
  · exact absent (same ▸ List.mem_append_right shorter (List.mem_singleton_self x))

theorem passesEmpty_nextStarts {token : List Char} (visible : token ≠ [])
    (blank : isBlank x = true) :
    PassesEmpty x fun rest =>
      rest.head?.any fun next => !next.isEmpty && !token.isPrefixOf (strip next) where
  ended rest := by
    rcases rest with _ | ⟨next, _ | ⟨second, rest⟩⟩
    · rfl
    · cases next <;> simp [endLines, leadsEmpty]
    · rw [endLines_cons (List.cons_ne_nil second rest), List.head?_cons, Option.any_some,
        strip_append blank, List.isEmpty_eq_false_iff.mpr (by simp)]
      cases next with
      | nil =>
          cases token with
          | nil => exact absurd rfl visible
          | cons c token => rfl
      | cons c next => exact (Bool.or_false _).symm
  passed rest leads := by
    rw [(leadsEmpty_eq_true_iff.mp leads).1]
    rfl

end

theorem gains_nullPointerRisks {all : List Line} {number : Nat}
    (inside : number ∈ lineNumbers all) :
    Gains
      (fun finding => finding = nullPointerRisk.at number (lineAt all number) ∧
        dereferences (lineAt all number) = true ∧ declaresNonNull (lineAt all number) = false ∧
        WindowHolds "get" all number ∧ ¬ WindowHolds "null check" all number ∧
        ChecksAcross all number)
      (nullPointerRisks number (lineAt all number) (all.drop number))
      (nullPointerRisks number (lineAt (endLines '\r' all) number)
        ((endLines '\r' all).drop number)) := by
  have ends := @ended_lineAt_endLines '\r' all number
  have blank : isBlank '\r' = true := by decide
  have calls :
      dereferences (lineAt (endLines '\r' all) number) = dereferences (lineAt all number) := by
    apply ends.eq_of_append
    rw [dereferences, dereferences, strip_append blank, mentions_append (by decide)]
  have guards : declaresNonNull (lineAt (endLines '\r' all) number) =
      declaresNonNull (lineAt all number) := by
    apply ends.eq_of_append
    rw [declaresNonNull, declaresNonNull, mentions_append (by decide), mentions_append (by decide)]
  have insideEnded : number ∈ lineNumbers (endLines '\r' all) := by
    rwa [lineNumbers_endLines]
  rw [nullPointerRisks, nullPointerRisks,
    ends.eq_of_append (Notice.at_append blank (by decide) number _)]
  apply Gains.ite
  · rw [risksNull_iff insideEnded, risksNull_iff inside, calls, guards,
      windowHolds_endLines (by decide), windowHolds_endLines (by decide),
      and_iff_left (not_checksAcross_endLines (by decide))]
    by_cases across : ChecksAcross all number <;> simp [across]
  · rintro ⟨-, -, -, -, across⟩ risks
    exact ((risksNull_iff inside).mp risks).2.2.2.2 across

theorem gains_suppressions (all : List Line) (number : Nat) :
    Gains
      (fun finding => finding = suppressedWarnings.at number (lineAt all number) ∧
        suppression.occursIn (lineAt all number) = true ∧ BeforeEmpty all number)
      (suppressions number (lineAt all number) (all.drop number))
      (suppressions number (lineAt (endLines '\r' all) number)
        ((endLines '\r' all).drop number)) := by
  rw [suppressions_eq, suppressions_eq]
  exact gains_of_passesEmpty (by decide) (by decide) (Pattern.occursIn_append (by decide))
    (passesEmpty_nextStarts (by decide) (by decide)) number

theorem gains_reportAt {all : List Line} {number : Nat} (inside : number ∈ lineNumbers all) :
    Gains (AddedOn all number) (machine.reportAt all number)
      (machine.reportAt (endLines '\r' all) number) := by
  have blank : isBlank '\r' = true := by decide
  have ends := @ended_lineAt_endLines '\r' all number
  have spelled : methodSyntax.ignoresLast '\r' = true := by decide
  have spans : BraceSpan.reportLong methodLimit longMethod
        (BraceSpan.Tracker.spanAt methodSyntax (endLines '\r' all) number) =
      BraceSpan.reportLong methodLimit longMethod
        (BraceSpan.Tracker.spanAt methodSyntax all number) := by
    have alike := BraceSpan.Tracker.alike_after blank spelled all (number - 1)
    exact BraceSpan.reportLong_alike blank (fun _ _ => rfl) (fun _ => rfl)
      (alike.feed blank spelled number ends).2
  rw [reportAt_machine, reportAt_machine, spans, Rule.check_ended blank (by decide) number ends,
    Rule.check_ended blank (by decide) number ends, Rule.check_ended blank (by decide) number ends]
  refine ((((((Gains.nothing _).append (gains_nullPointerRisks inside)).append (.nothing _)).append
    (.nothing _)).append (.nothing _)).append (gains_suppressions all number)).congr ?_
  intro finding
  simp only [false_or, or_false]
  constructor
  · rintro (⟨rfl, calls, unguarded, gets, unsaid, across⟩ | ⟨rfl, suppresses, before⟩)
    · exact .risk calls unguarded gets unsaid across
    · exact .suppression suppresses before
  · rintro (⟨suppresses, before⟩ | ⟨calls, unguarded, gets, unsaid, across⟩)
    · exact .inr ⟨rfl, suppresses, before⟩
    · exact .inl ⟨rfl, calls, unguarded, gets, unsaid, across⟩

theorem gains_check (text : List Char) :
    Gains (fun finding => ∃ number ∈ lineNumbers (lines text), AddedOn (lines text) number finding)
      (check text) (check (writeBreaks .both text)) := by
  rw [check, Machine.run_eq_flatMap, Machine.run_eq_flatMap, lines_writeBreaks,
    lineNumbers_endLines]
  exact .flatMap fun number inside => gains_reportAt inside

end Java

/-- Texts whose lines end in carriage returns and line feeds have the findings of the texts without
the carriage returns. They have more where a call or a suppression is followed by an empty line that
is not the last, and where the words that make a null check stand on two lines. -/
theorem carriage_returns_add_findings (text : List Char) :
    Gains
      (fun finding => ∃ number ∈ lineNumbers (lines text), Go.AddedOn (lines text) number finding)
      (Go.check text) (Go.check (writeBreaks .both text)) ∧
    Gains
      (fun finding => ∃ number ∈ lineNumbers (lines text), Java.AddedOn (lines text) number finding)
      (Java.check text) (Java.check (writeBreaks .both text)) :=
  ⟨Go.gains_check text, Java.gains_check text⟩

/-- An unchecked error is passed over before an empty line, but not before one with a carriage
return in it. -/
theorem unchecked_error_reported_before_carriage_return :
    let text := "err := f()\n\ng()".toList
    '\r' ∉ text ∧ Go.check text = [] ∧
      Go.check (writeBreaks .both text) = [Go.uncheckedError.at 1 "err := f()".toList] := by
  decide +kernel

end LineLint
