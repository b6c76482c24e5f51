import LineLint.BraceSpan
import LineLint.Proofs.Scan.Latest
import LineLint.Proofs.Scan.Numbered
import Mathlib.Algebra.Ring.Int.Defs

namespace LineLint.BraceSpan

/-- How often a character stands in the lines `first` to `last`. -/
def countBetween (c : Char) (all : List Line) (first last : Nat) : Nat :=
  ((List.range' first (last + 1 - first)).flatMap fun number : Nat => lineAt all number).count c

/-- Opening braces less closing ones in the lines `first` to `last`. -/
def balanceBetween (all : List Line) (first last : Nat) : Int :=
  countBetween '{' all first last - countBetween '}' all first last

theorem countBetween_succ (c : Char) (all : List Line) {first last : Nat}
    (order : first ≤ last + 1) :
    countBetween c all first (last + 1) =
      countBetween c all first last + (lineAt all (last + 1 : Nat)).count c := by
  have count : last + 1 + 1 - first = (last + 1 - first) + 1 := by omega
  have final : first + (last + 1 - first) = last + 1 := by omega
  simp only [countBetween]
  rw [count, List.range'_concat, List.flatMap_append, List.count_append, Nat.one_mul, final,
    List.flatMap_singleton]

@[simp] theorem countBetween_succ_self (c : Char) (all : List Line) (last : Nat) :
    countBetween c all (last + 1) last = 0 := by
  simp [countBetween]

/-- What the tracker adds for one line is what the line's own braces add. -/
theorem balanceBetween_succ (all : List Line) {first last : Nat} (order : first ≤ last + 1) :
    balanceBetween all first (last + 1) =
      balanceBetween all first last + balance (lineAt all (last + 1 : Nat)) := by
  simp only [balanceBetween, balance, countBetween_succ _ all order]
  omega

@[simp] theorem balanceBetween_succ_self (all : List Line) (last : Nat) :
    balanceBetween all (last + 1) last = 0 := by
  simp [balanceBetween]

/-- Lines without a balance of their own leave the balance as the first line makes it. -/
theorem balanceBetween_of_plain {all : List Line} {first last : Nat} (order : first ≤ last)
    (plain : ∀ line : Nat, first < line → line ≤ last → balance (lineAt all line) = 0) :
    balanceBetween all first last = balance (lineAt all first) := by
  induction last, order using Nat.le_induction with
  | base => simp [balanceBetween, countBetween, balance]
  | succ last order induction =>
      rw [balanceBetween_succ all (by omega), plain (last + 1) (by omega) (Nat.le_refl _),
        Int.add_zero]
      exact induction fun line after upTo => plain line after (Nat.le_succ_of_le upTo)

/-- Line `start` is the last one up to line `number` that opens a function. -/
structure LastOpening (spelling : FunctionSyntax) (all : List Line) (number start : Nat) :
    Prop where
  first : 1 ≤ start
  reached : start ≤ number
  opens : spelling.opens (lineAt all start) = true
  latest : ∀ later, start < later → later ≤ number →
    spelling.opens (lineAt all later) = false

/-- The balance after line `number` counts from line `start`: the last opening line, or the first
line of all where no line has opened a function. -/
def CountsFrom (spelling : FunctionSyntax) (all : List Line) (number start : Nat) : Prop :=
  LastOpening spelling all number start ∨
    start = 1 ∧ ∀ line : Nat, 1 ≤ line → line ≤ number → spelling.opens (lineAt all line) = false

/-- Line `number` has a closing brace, and the braces since line `start` are in balance. -/
def ClosesAt (all : List Line) (start number : Nat) : Prop :=
  '}' ∈ lineAt all number ∧ balanceBetween all start number = 0

/-- The function opened on line `start` ends on line `number`. -/
structure EndsAt (spelling : FunctionSyntax) (all : List Line) (number start : Nat) : Prop
    extends LastOpening spelling all number start where
  closes : ClosesAt all start number
  unclosed : ∀ earlier, start ≤ earlier → earlier < number → ¬ ClosesAt all start earlier

def between (spelling : FunctionSyntax) (all : List Line) (start number : Nat) : BraceSpan where
  start := start
  header := lineAt all start
  name := spelling.nameIn (lineAt all start)
  length := number - start

section

variable {spelling : FunctionSyntax} {all : List Line}

theorem lastOpening_iff {number start : Nat} :
    LastOpening spelling all number start ↔
      Latest (fun line : Nat => spelling.opens (lineAt all line) = true) number start := by
  constructor
  · intro last
    exact ⟨last.first, last.reached, last.opens,
      fun later after upTo => Bool.not_eq_true _ ▸ last.latest later after upTo⟩
  · intro last
    exact ⟨last.first, last.reached, last.held,
      fun later after upTo => Bool.not_eq_true _ ▸ last.latest later after upTo⟩

theorem lastOpening_succ_iff {number start : Nat} :
    LastOpening spelling all (number + 1) start ↔
      if spelling.opens (lineAt all (number + 1 : Nat)) then start = number + 1
      else LastOpening spelling all number start := by
  simp only [lastOpening_iff]
  split
  next opening =>
    constructor
    · intro last
      rcases last.eq_or_of_succ with same | ⟨quiet, -⟩
      · exact same
      · exact absurd opening quiet
    · rintro rfl
      exact .of_holds opening
  next quiet =>
    constructor
    · intro last
      rcases last.eq_or_of_succ with rfl | ⟨-, last⟩
      · exact absurd last.held quiet
      · exact last
    · exact fun last => last.succ quiet

theorem not_opens_of_not_lastOpening {number : Nat}
    (none : ∀ start, ¬ LastOpening spelling all number start) {line : Nat} (first : 1 ≤ line)
    (upTo : line ≤ number) : spelling.opens (lineAt all line) = false := by
  rw [← Bool.not_eq_true]
  intro opens
  obtain ⟨start, last⟩ := @exists_latest (fun line : Nat => spelling.opens (lineAt all line) = true)
    number line first upTo opens
  exact none start (lastOpening_iff.mpr last)

theorem EndsAt.start_lt {number later first second : Nat}
    (one : EndsAt spelling all number first) (other : EndsAt spelling all later second)
    (order : number < later) : first < second := by
  have upTo := (lastOpening_iff.mp one.toLastOpening).mono (lastOpening_iff.mp other.toLastOpening)
    (Nat.le_of_lt order)
  rcases Nat.lt_or_eq_of_le upTo with before | rfl
  · exact before
  · exact absurd one.closes (other.unclosed number one.reached order)

end

namespace Tracker

def after (spelling : FunctionSyntax) (all : List Line) : Nat → Tracker
  | 0 => {}
  | seen + 1 =>
      ((after spelling all seen).feed spelling (seen + 1) (lineAt all (seen + 1 : Nat))).1

def spanAt (spelling : FunctionSyntax) (all : List Line) (number : Nat) : Option BraceSpan :=
  ((after spelling all (number - 1)).feed spelling number (lineAt all number)).2

def Balances (entered : Tracker) (line : Line) : Prop :=
  '}' ∈ line ∧ entered.depth + balance line = 0

instance (entered : Tracker) (line : Line) : Decidable (entered.Balances line) :=
  inferInstanceAs (Decidable (_ ∧ _))

theorem decide_balances (entered : Tracker) (line : Line) :
    decide (entered.Balances line) =
      (entered.depth + balance line == 0 && line.contains '}') := by
  rw [Bool.eq_iff_iff, decide_eq_true_iff]
  simp [Balances, and_comm]

theorem feed_fst (spelling : FunctionSyntax) (tracker : Tracker) (number : Nat) (line : Line) :
    (tracker.feed spelling number line).1 =
      let entered := tracker.enter spelling number line
      { entered with
        depth := entered.depth + balance line
        inside := entered.inside && !decide (entered.Balances line) } := by
  simp only [feed, Bool.and_assoc, ← decide_balances]
  cases (tracker.enter spelling number line).inside <;>
    cases decide ((tracker.enter spelling number line).Balances line) <;> rfl

theorem feed_snd (spelling : FunctionSyntax) (tracker : Tracker) (number : Nat) (line : Line) :
    (tracker.feed spelling number line).2 =
      let entered := tracker.enter spelling number line
      if entered.inside = true ∧ entered.Balances line then
        some ⟨entered.start, entered.header, entered.name, number - entered.start⟩
      else none := by
  simp only [feed, Bool.and_assoc, ← decide_balances, Bool.and_eq_true, decide_eq_true_eq]
  split <;> rfl

theorem name_feed {spelling : FunctionSyntax} {line : Line} (opens : spelling.opens line = true)
    (tracker : Tracker) (number : Nat) :
    (tracker.feed spelling number line).1.name = spelling.nameIn line := by
  rw [feed_fst, enter, if_pos opens]

variable {spelling : FunctionSyntax} {all : List Line}

/-- What a tracker knows of the function opened on line `start`, when the balance since then is
`depth` and `isOpen` says whether the function goes on. -/
structure Knows (spelling : FunctionSyntax) (all : List Line) (tracker : Tracker) (start : Nat)
    (depth : Int) (isOpen : Prop) : Prop where
  start_eq : tracker.start = start
  header_eq : tracker.header = lineAt all start
  name_eq : tracker.name = spelling.nameIn (lineAt all start)
  depth_eq : tracker.depth = depth
  inside_iff : tracker.inside = true ↔ isOpen

structure Follows (spelling : FunctionSyntax) (all : List Line) (number : Nat)
    (tracker : Tracker) : Prop where
  opened : ∀ start, LastOpening spelling all number start →
    Knows spelling all tracker start (balanceBetween all start number)
      (∀ line, start ≤ line → line ≤ number → ¬ ClosesAt all start line)
  unopened : (∀ start, ¬ LastOpening spelling all number start) →
    tracker.inside = false ∧ tracker.depth = balanceBetween all 1 number

theorem follows_initial : Follows spelling all 0 {} where
  opened := fun start last => by
    have := last.first
    have := last.reached
    omega
  unopened := fun _ => ⟨rfl, rfl⟩

theorem Follows.enter {number start : Nat} {tracker : Tracker}
    (follows : Follows spelling all number tracker)
    (last : LastOpening spelling all (number + 1) start) :
    Knows spelling all (tracker.enter spelling (number + 1) (lineAt all (number + 1 : Nat))) start
      (balanceBetween all start number)
      (∀ line, start ≤ line → line < number + 1 → ¬ ClosesAt all start line) := by
  have opening := lastOpening_succ_iff.mp last
  split at opening
  next opens =>
    subst opening
    simp only [Tracker.enter, opens, if_true]
    exact ⟨rfl, rfl, rfl, (balanceBetween_succ_self all number).symm,
      iff_of_true rfl fun line from_ upTo => by omega⟩
  next quiet =>
    simp only [Tracker.enter, quiet, Bool.false_eq_true, if_false]
    simpa only [Nat.lt_succ_iff] using follows.opened start opening

theorem Follows.balances_iff {number start : Nat} {tracker : Tracker}
    (follows : Follows spelling all number tracker)
    (last : LastOpening spelling all (number + 1) start) :
    (tracker.enter spelling (number + 1) (lineAt all (number + 1 : Nat))).Balances
        (lineAt all (number + 1 : Nat)) ↔
      ClosesAt all start (number + 1) := by
  simp only [Balances, ClosesAt, (follows.enter last).depth_eq,
    balanceBetween_succ all last.reached]

theorem Follows.enter_unopened {number : Nat} {tracker : Tracker}
    (follows : Follows spelling all number tracker)
    (none : ∀ start, ¬ LastOpening spelling all (number + 1) start) :
    (tracker.enter spelling (number + 1) (lineAt all (number + 1 : Nat))).inside = false ∧
      (tracker.enter spelling (number + 1) (lineAt all (number + 1 : Nat))).depth =
        balanceBetween all 1 number := by
  simp only [lastOpening_succ_iff] at none
  by_cases opens : spelling.opens (lineAt all (number + 1 : Nat)) = true
  · simp only [if_pos opens] at none
    exact absurd rfl (none (number + 1))
  · simp only [if_neg opens] at none
    rw [Tracker.enter, if_neg opens]
    exact follows.unopened none

theorem Follows.feed {number : Nat} {tracker : Tracker}
    (follows : Follows spelling all number tracker) :
    Follows spelling all (number + 1)
      (tracker.feed spelling (number + 1) (lineAt all (number + 1 : Nat))).1 where
  opened := fun start last => by
    have knows := follows.enter last
    rw [feed_fst]
    refine ⟨knows.start_eq, knows.header_eq, knows.name_eq, ?_, ?_⟩
    · rw [balanceBetween_succ all last.reached, ← knows.depth_eq]
    · simp only [Bool.and_eq_true, Bool.not_eq_true', decide_eq_false_iff_not, knows.inside_iff,
        follows.balances_iff last]
      constructor
      · rintro ⟨unclosed, goes⟩ line from_ upTo
        rcases Nat.lt_or_eq_of_le upTo with earlier | rfl
        · exact unclosed line from_ earlier
        · exact goes
      · intro unclosed
        exact ⟨fun line from_ earlier => unclosed line from_ (Nat.le_of_lt earlier),
          unclosed (number + 1) last.reached (Nat.le_refl _)⟩
  unopened := fun none => by
    obtain ⟨outside, depth⟩ := follows.enter_unopened none
    rw [feed_fst]
    simp only [outside, depth, Bool.false_and, true_and]
    rw [balanceBetween_succ all (by omega)]

theorem follows_after (number : Nat) : Follows spelling all number (after spelling all number) := by
  induction number with
  | zero => exact follows_initial
  | succ number induction => exact induction.feed

theorem depth_after (number : Nat) :
    ∃ start, CountsFrom spelling all number start ∧
      (after spelling all number).depth = balanceBetween all start number := by
  have follows : Follows spelling all number (after spelling all number) := follows_after number
  by_cases opened : ∃ start, LastOpening spelling all number start
  · obtain ⟨start, last⟩ := opened
    exact ⟨start, .inl last, (follows.opened start last).depth_eq⟩
  · have none : ∀ start, ¬ LastOpening spelling all number start :=
      fun start last => opened ⟨start, last⟩
    exact ⟨1, .inr ⟨rfl, fun line first upTo => not_opens_of_not_lastOpening none first upTo⟩,
      (follows.unopened none).2⟩

/-- The tracker lets a function end exactly where one ends. -/
theorem spanAt_eq_some_iff {number : Nat} (first : 1 ≤ number) {span : BraceSpan} :
    spanAt spelling all number = some span ↔
      ∃ start, EndsAt spelling all number start ∧ span = between spelling all start number := by
  obtain ⟨seen, rfl⟩ := Nat.exists_eq_add_of_le' first
  have follows : Follows spelling all seen (after spelling all seen) := follows_after seen
  simp only [spanAt, Nat.add_sub_cancel, feed_snd]
  constructor
  · intro found
    split at found
    next ends =>
      by_cases opened : ∃ start, LastOpening spelling all (seen + 1) start
      · obtain ⟨start, last⟩ := opened
        have knows := follows.enter last
        refine ⟨start, ⟨last, (follows.balances_iff last).mp ends.2, ?_⟩, ?_⟩
        · exact knows.inside_iff.mp ends.1
        · rw [← Option.some.inj found, knows.start_eq, knows.header_eq, knows.name_eq]
          rfl
      · have outside := (follows.enter_unopened fun start last => opened ⟨start, last⟩).1
        rw [outside] at ends
        cases ends.1
    next => cases found
  · rintro ⟨start, ends, rfl⟩
    have knows := follows.enter ends.toLastOpening
    rw [if_pos ⟨knows.inside_iff.mpr fun line from_ earlier => ends.unclosed line from_ earlier,
      (follows.balances_iff ends.toLastOpening).mpr ends.closes⟩]
    simp only [between, knows.start_eq, knows.header_eq, knows.name_eq]

end Tracker

def spans (spelling : FunctionSyntax) (all : List Line) : List BraceSpan :=
  (lineNumbers all).filterMap (Tracker.spanAt spelling all)

section

variable {spelling : FunctionSyntax} {all : List Line}

theorem mem_spans_iff {span : BraceSpan} :
    span ∈ spans spelling all ↔
      ∃ number start, 1 ≤ number ∧ number ≤ all.length ∧ EndsAt spelling all number start ∧
        span = between spelling all start number := by
  simp only [spans, List.mem_filterMap, mem_lineNumbers]
  constructor
  · rintro ⟨number, ⟨first, last⟩, found⟩
    obtain ⟨start, ends, rfl⟩ := (Tracker.spanAt_eq_some_iff first).mp found
    exact ⟨number, start, first, last, ends, rfl⟩
  · rintro ⟨number, start, first, last, ends, rfl⟩
    exact ⟨number, ⟨first, last⟩, (Tracker.spanAt_eq_some_iff first).mpr ⟨start, ends, rfl⟩⟩

/-- A function that ends later starts later, so no two start on one line. -/
theorem pairwise_spans : (spans spelling all).Pairwise (·.start < ·.start) := by
  rw [spans, List.pairwise_filterMap]
  refine (rising_lineNumbers all).imp_of_mem ?_
  intro number later member laterMember order span found other otherFound
  have first := (mem_lineNumbers.mp member).1
  have laterFirst := (mem_lineNumbers.mp laterMember).1
  obtain ⟨start, ends, rfl⟩ := (Tracker.spanAt_eq_some_iff first).mp found
  obtain ⟨otherStart, otherEnds, rfl⟩ := (Tracker.spanAt_eq_some_iff laterFirst).mp otherFound
  exact ends.start_lt otherEnds order

theorem header_of_mem_spans {span : BraceSpan} (member : span ∈ spans spelling all) :
    1 ≤ span.start ∧ span.start + span.length ≤ all.length ∧
      span.header = lineAt all span.start := by
  obtain ⟨number, start, -, last, ends, rfl⟩ := mem_spans_iff.mp member
  have reached := ends.reached
  refine ⟨ends.first, ?_, rfl⟩
  simp only [between]
  omega

/-- Where no line but the last one has a closing brace, a function ends there or nowhere. -/
theorem spans_eq_of_last_closes {last : Nat} (count : all.length = last + 1)
    (unclosed : ∀ line : Nat, 1 ≤ line → line ≤ last → '}' ∉ lineAt all line) :
    spans spelling all = (Tracker.spanAt spelling all (last + 1)).toList := by
  have none : (List.range' 1 last).filterMap (Tracker.spanAt spelling all) = [] := by
    rw [List.filterMap_eq_nil_iff]
    intro number inside
    rw [List.mem_range'_1] at inside
    rw [Option.eq_none_iff_forall_ne_some]
    intro span found
    obtain ⟨start, ends, -⟩ := (Tracker.spanAt_eq_some_iff inside.1).mp found
    exact unclosed number inside.1 (by omega) ends.closes.1
  rw [spans, lineNumbers, count, List.range'_1_concat, List.filterMap_append, none, List.nil_append,
    Nat.add_comm 1 last, List.filterMap_cons]
  cases Tracker.spanAt spelling all (last + 1) <;> rfl

end

end LineLint.BraceSpan
