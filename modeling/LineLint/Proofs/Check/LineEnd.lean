import LineLint.Check.Quality
import LineLint.Proofs.Pattern.TextEnd
import LineLint.Proofs.Text.LineBreaks
import Mathlib.Data.List.Forall2

namespace LineLint

/-- A line as it is, or with one more character at its end. -/
inductive Ended (x : Char) : Line → Line → Prop
  | bare (line : Line) : Ended x line line
  | ended (line : Line) : Ended x line (line ++ [x])

namespace Ended

variable {x : Char} {line other : Line}

theorem eq_of_append {β : Type} {read : Line → β} (same : read (line ++ [x]) = read line)
    (ends : Ended x line other) : read other = read line := by
  cases ends with
  | bare => rfl
  | ended => exact same

end Ended

theorem forall₂_ended_endLines {x : Char} (all : List Line) :
    List.Forall₂ (Ended x) all (endLines x all) := by
  induction all with
  | nil => exact .nil
  | cons line rest induction =>
      cases rest with
      | nil => exact .cons (.bare line) .nil
      | cons next rest => exact .cons (.ended line) induction

section

variable {x : Char}

theorem stripLeft_append (blank : isBlank x = true) (text : List Char) :
    stripLeft (text ++ [x]) = [] ∧ stripLeft text = [] ∨
      stripLeft (text ++ [x]) = stripLeft text ++ [x] := by
  simp only [stripLeft, List.dropWhile_append]
  split
  next none => exact .inl ⟨by simp [blank], List.isEmpty_iff.mp none⟩
  next => exact .inr rfl

theorem stripRight_append (blank : isBlank x = true) (text : List Char) :
    stripRight (text ++ [x]) = stripRight text := by
  rw [stripRight, List.reverse_append, List.reverse_singleton, List.singleton_append,
    stripLeft_cons_of_blank blank, stripRight]

theorem strip_append (blank : isBlank x = true) (text : List Char) :
    strip (text ++ [x]) = strip text := by
  rcases stripLeft_append blank text with ⟨longer, shorter⟩ | longer
  · rw [strip, strip, longer, shorter]
  · rw [strip, longer, stripRight_append blank, strip]

theorem offset?_append {token : List Char} (absent : x ∉ token) (text : List Char) :
    offset? token (text ++ [x]) = offset? token text := by
  induction text with
  | nil =>
      cases token with
      | nil => rfl
      | cons c token =>
          rw [List.mem_cons, not_or] at absent
          simp [offset?, List.isPrefixOf, Ne.symm absent.1]
  | cons c rest induction =>
      have start : token.isPrefixOf (c :: rest ++ [x]) = token.isPrefixOf (c :: rest) := by
        have other : token ≠ c :: rest ++ [x] := by
          rintro rfl
          exact absent (by simp)
        rw [Bool.eq_iff_iff, List.isPrefixOf_iff_prefix, List.isPrefixOf_iff_prefix,
          List.prefix_concat_iff, or_iff_right other]
      rw [List.cons_append, offset?, offset?, induction, ← List.cons_append, start]

theorem mentions_append {token : String} (absent : x ∉ token.toList) (text : List Char) :
    mentions (text ++ [x]) token = mentions text token := by
  rw [mentions, mentions, offset?_append absent]

theorem firstOffset?_append {tokens : List (List Char)} (absent : ∀ token ∈ tokens, x ∉ token)
    (text : List Char) : firstOffset? tokens (text ++ [x]) = firstOffset? tokens text := by
  induction tokens with
  | nil => rfl
  | cons token rest induction =>
      simp only [List.mem_cons, forall_eq_or_imp] at absent
      simp only [firstOffset?, List.findSome?_cons] at induction ⊢
      rw [offset?_append absent.1, induction absent.2]

end

def Notice.ignoresLast (x : Char) (notice : Notice) : Bool :=
  notice.anchors.all fun anchor => !anchor.toList.contains x

def Rule.ignoresLast (x : Char) (rule : Rule) : Bool :=
  rule.toNotice.ignoresLast x && (rule.onStripped || rule.pattern.ignoresLast x) &&
    rule.veto.all (·.ignoresLast x)

section

variable {x : Char} (blank : isBlank x = true)

include blank

theorem Notice.at_append {notice : Notice} (ignores : notice.ignoresLast x = true) (number : Nat)
    (line : Line) : notice.at number (line ++ [x]) = notice.at number line := by
  have absent : ∀ token ∈ notice.anchors.map String.toList, x ∉ token := by
    intro token member
    obtain ⟨anchor, listed, rfl⟩ := List.mem_map.mp member
    simpa using List.all_eq_true.mp ignores anchor listed
  simp only [Notice.at, firstOffset?_append absent, strip_append blank]

theorem Rule.applies_append {rule : Rule} (ignores : rule.ignoresLast x = true) (line : Line) :
    rule.applies (line ++ [x]) = rule.applies line := by
  simp only [ignoresLast, Bool.and_eq_true] at ignores
  obtain ⟨⟨-, pattern⟩, veto⟩ := ignores
  have matches_ : rule.pattern.occursIn (rule.subject (line ++ [x])) =
      rule.pattern.occursIn (rule.subject line) := by
    unfold subject
    split
    next => rw [strip_append blank]
    next raw =>
      rw [Bool.or_eq_true, or_iff_right raw] at pattern
      exact Pattern.occursIn_append pattern line
  have vetoes : rule.vetoed (line ++ [x]) = rule.vetoed line := by
    unfold vetoed
    cases held : rule.veto with
    | none => rfl
    | some veto_ =>
        rw [held] at veto
        exact Pattern.occursIn_append veto line
  rw [applies, applies, matches_, vetoes]

theorem Rule.check_ended {table : List Rule} (ignores : ∀ rule ∈ table, rule.ignoresLast x = true)
    (number : Nat) {line other : Line} (ends : Ended x line other) :
    Rule.check table number other = Rule.check table number line := by
  apply ends.eq_of_append
  have applied : table.filter (·.applies (line ++ [x])) = table.filter (·.applies line) := by
    apply List.filter_congr
    intro rule listed
    exact Rule.applies_append blank (ignores rule listed) line
  rw [Rule.check, Rule.check, applied]
  apply List.map_congr_left
  intro rule member
  have ignored := ignores rule (List.mem_filter.mp member).1
  simp only [Rule.ignoresLast, Bool.and_eq_true] at ignored
  exact Notice.at_append blank ignored.1.1 number line

end

def FunctionSyntax.ignoresLast (x : Char) (spelling : FunctionSyntax) : Bool :=
  spelling.onStripped || (spelling.opening.ignoresLast x && spelling.name.ignoresLast x)

namespace BraceSpan

/-- Two functions that differ at most in a character at the end of their first lines. -/
inductive Alike (x : Char) : BraceSpan → BraceSpan → Prop
  | header {start length : Nat} {name : String} {header other : Line}
      (ends : Ended x header other) :
      Alike x ⟨start, header, name, length⟩ ⟨start, other, name, length⟩

inductive Tracker.Alike (x : Char) : Tracker → Tracker → Prop
  | header {inside : Bool} {start : Nat} {name : String} {depth : Int} {header other : Line}
      (ends : Ended x header other) :
      Tracker.Alike x ⟨inside, start, header, name, depth⟩ ⟨inside, start, other, name, depth⟩

variable {x : Char} {spelling : FunctionSyntax} {line other : Line}

section

variable (blank : isBlank x = true)

include blank

theorem ne_of_blank {brace : Char} (solid : isBlank brace = false) : brace ≠ x := by
  rintro rfl
  rw [blank] at solid
  cases solid

theorem balance_ended (ends : Ended x line other) : balance other = balance line := by
  apply ends.eq_of_append
  have opening := ne_of_blank blank (show isBlank '{' = false by decide)
  have closing := ne_of_blank blank (show isBlank '}' = false by decide)
  simp [balance, List.count_append, opening.symm, closing.symm]

theorem contains_ended (ends : Ended x line other) :
    other.contains '}' = line.contains '}' := by
  have same : (line ++ [x]).contains '}' = line.contains '}' := by
    simp [ne_of_blank blank (show isBlank '}' = false by decide)]
  exact ends.eq_of_append same

variable (ignores : spelling.ignoresLast x = true)

include ignores

theorem opens_ended (ends : Ended x line other) : spelling.opens other = spelling.opens line := by
  apply ends.eq_of_append
  unfold FunctionSyntax.opens FunctionSyntax.subject
  split
  next => rw [strip_append blank]
  next raw =>
    rw [FunctionSyntax.ignoresLast, Bool.or_eq_true, or_iff_right raw, Bool.and_eq_true] at ignores
    exact Pattern.occursIn_append ignores.1 line

theorem nameIn_ended (ends : Ended x line other) :
    spelling.nameIn other = spelling.nameIn line := by
  apply ends.eq_of_append
  unfold FunctionSyntax.nameIn FunctionSyntax.subject
  split
  next => rw [strip_append blank]
  next raw =>
    rw [FunctionSyntax.ignoresLast, Bool.or_eq_true, or_iff_right raw, Bool.and_eq_true] at ignores
    rw [Pattern.captureIn_append ignores.2 line]

variable {tracker follower : Tracker} (number : Nat)

theorem Tracker.Alike.enter (alike : Tracker.Alike x tracker follower) (ends : Ended x line other) :
    Tracker.Alike x (tracker.enter spelling number line)
      (follower.enter spelling number other) := by
  rw [Tracker.enter, Tracker.enter, opens_ended blank ignores ends, nameIn_ended blank ignores ends]
  split
  · exact .header ends
  · exact alike

theorem Tracker.Alike.feed (alike : Tracker.Alike x tracker follower) (ends : Ended x line other) :
    Tracker.Alike x (tracker.feed spelling number line).1 (follower.feed spelling number other).1 ∧
      Option.Rel (BraceSpan.Alike x) (tracker.feed spelling number line).2
        (follower.feed spelling number other).2 := by
  have entered := alike.enter blank ignores number ends
  unfold Tracker.feed
  rw [balance_ended blank ends, contains_ended blank ends]
  generalize tracker.enter spelling number line = first at entered ⊢
  generalize follower.enter spelling number other = second at entered ⊢
  cases entered with
  | header started =>
      dsimp only
      split
      · exact ⟨.header started, .some (.header started)⟩
      · exact ⟨.header started, .none⟩

omit ignores

theorem reportLong_alike {limit : Nat} {notice : BraceSpan → Notice}
    {span follower : Option BraceSpan}
    (unsaid : ∀ span header, notice { span with header := header } = notice span)
    (anchored : ∀ span, (notice span).ignoresLast x = true)
    (alike : Option.Rel (BraceSpan.Alike x) span follower) :
    reportLong limit notice follower = reportLong limit notice span := by
  cases alike with
  | none => rfl
  | some alike =>
      cases alike with
      | @header start length name header other ends =>
          have same := unsaid ⟨start, header, name, length⟩ other
          simp only [reportLong]
          rw [same]
          split
          · rw [ends.eq_of_append (Notice.at_append blank (anchored _) start header)]
          · rfl

end

end BraceSpan

section

variable {x : Char} {all others : List Line}

theorem scanFrom_ended {check : LineCheck}
    (each : ∀ number line other rest later, Ended x line other →
      check number other later = check number line rest)
    (ends : List.Forall₂ (Ended x) all others) (number : Nat) :
    scanFrom check number others = scanFrom check number all := by
  induction ends generalizing number with
  | nil => rfl
  | cons here rest induction =>
      rw [scanFrom_cons, scanFrom_cons, each _ _ _ _ _ here, induction]

theorem Machine.runFrom_ended {σ : Type} {machine : Machine σ} {alike : σ → σ → Prop}
    (each : ∀ state follower number line other rest later, alike state follower →
      Ended x line other →
        alike (machine.step state number line rest).1 (machine.step follower number other later).1 ∧
          (machine.step follower number other later).2 = (machine.step state number line rest).2)
    (ends : List.Forall₂ (Ended x) all others) {state follower : σ} (start : alike state follower)
    (number : Nat) :
    machine.runFrom follower number others = machine.runFrom state number all := by
  induction ends generalizing state follower number with
  | nil => rfl
  | @cons line other rest later here ends induction =>
      obtain ⟨next, same⟩ := each state follower number line other rest later start here
      rw [Machine.runFrom, Machine.runFrom, same, induction next]

end

end LineLint
