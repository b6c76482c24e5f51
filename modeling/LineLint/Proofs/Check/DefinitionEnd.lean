import LineLint.Proofs.Check.DefinitionLength

namespace LineLint.Python

section

variable {all : List Line} {number : Nat}

theorem Opens.not_blank {line : Line} (opens : Opens line) : strip line ≠ [] := by
  obtain ⟨name, between, rest, whole, -⟩ := opens
  simp [whole]

theorem Opens.not_returns {line : Line} (opens : Opens line) : ¬ Returns line := by
  obtain ⟨name, between, rest, whole, -⟩ := opens
  rw [Returns, whole]
  simp [List.cons_prefix_cons]

theorem Opens.inside (opens : Opens (lineAt all number)) : 1 ≤ number ∧ number ≤ all.length := by
  cases number with
  | zero => exact absurd rfl opens.not_blank
  | succ position =>
      refine ⟨Nat.le_add_left 1 position, Nat.succ_le_of_lt (Nat.lt_of_not_le fun beyond => ?_)⟩
      apply opens.not_blank
      rw [lineAt_of_le beyond]
      rfl

theorem not_closes_of_opens (opens : Opens (lineAt all number)) : ¬ Closes all number := by
  rintro (returns | ⟨blank, -⟩)
  · exact opens.not_returns returns
  · exact opens.not_blank blank

end

/-- Line `start` opens a definition, and far below the line after line `number`, which is blank,
opens the next one; between the two no line opens anything or returns. -/
structure LongUntilNext (all : List Line) (start number : Nat) : Prop where
  opens : Opens (lineAt all start)
  far : functionLimit < number - start
  blank : strip (lineAt all number) = []
  next : Opens (lineAt all (number + 1 : Nat))
  quiet : ∀ line, start < line → line < number →
    ¬ Opens (lineAt all line) ∧ ¬ Returns (lineAt all line)

namespace LongUntilNext

variable {all : List Line} {start number last : Nat}

instance : Decidable (LongUntilNext all start number) :=
  decidable_of_iff
    (Opens (lineAt all start) ∧ functionLimit < number - start ∧ strip (lineAt all number) = [] ∧
      Opens (lineAt all (number + 1 : Nat)) ∧
      ∀ line, start + 1 ≤ line → line < number →
        ¬ Opens (lineAt all line) ∧ ¬ Returns (lineAt all line))
    ⟨fun ⟨opens, far, blank, next, quiet⟩ => ⟨opens, far, blank, next, quiet⟩,
      fun long => ⟨long.opens, long.far, long.blank, long.next, long.quiet⟩⟩

theorem not_opens (long : LongUntilNext all start number) {line : Nat} (after : start < line)
    (upTo : line ≤ number) : ¬ Opens (lineAt all line) := by
  rcases Nat.lt_or_eq_of_le upTo with before | rfl
  · exact (long.quiet line after before).1
  · exact fun opens => opens.not_blank long.blank

theorem not_returns (long : LongUntilNext all start number) {line : Nat} (after : start < line)
    (upTo : line ≤ number) : ¬ Returns (lineAt all line) := by
  rcases Nat.lt_or_eq_of_le upTo with before | rfl
  · exact (long.quiet line after before).2
  · intro returns
    rw [Returns, long.blank] at returns
    cases List.prefix_nil.mp returns

/-- Such a definition ends on the first blank line before the keyword, and no later than where the
next one opens. -/
theorem ends_iff (long : LongUntilNext all start number) (after : start < last) :
    (∃ name, EndsAt all last start name) ↔
      last ≤ number ∧ EndsBefore all last ∧
        ∀ earlier, start < earlier → earlier < last → ¬ EndsBefore all earlier := by
  constructor
  · rintro ⟨name, ends⟩
    have upTo : last ≤ number := by
      rw [← Nat.not_lt]
      intro beyond
      have far := long.far
      exact ends.latest (number + 1) (by omega) beyond long.next
    refine ⟨upTo, ?_, fun earlier from_ before endsBefore => ?_⟩
    · exact ends.closes.resolve_left (long.not_returns after upTo)
    · exact ends.unclosed earlier (Nat.le_of_lt from_) before (.inr endsBefore)
  · rintro ⟨upTo, endsBefore, first⟩
    obtain ⟨name, defines⟩ := long.opens
    refine ⟨name, ⟨⟨⟨long.opens.inside.1, Nat.le_of_lt after, long.opens, ?_⟩, defines, ?_⟩,
      .inr endsBefore⟩⟩
    · exact fun later from_ before => long.not_opens from_ (Nat.le_trans before upTo)
    · intro earlier from_ before
      rcases Nat.lt_or_eq_of_le from_ with from_ | rfl
      · rintro (returns | ends)
        · exact long.not_returns from_ (by omega) returns
        · exact first earlier from_ before ends
      · exact not_closes_of_opens long.opens

end LongUntilNext

/-- A long definition without a return is reported if the first blank line before the keyword, up to
the next definition, is far enough below. It is so, and the report tells the whole length, where
from there to the next definition the keyword begins the same lines that open one. -/
theorem long_definition_reports_before_next {text : List Char} {start number : Nat}
    (long : LongUntilNext (lines text) start number) :
    ((∃ finding ∈ longReports text, finding.line = start) ↔
      ∃ last, 30 < last - start ∧ last ≤ number ∧ EndsBefore (lines text) last ∧
        ∀ earlier, start < earlier → earlier < last → ¬ EndsBefore (lines text) earlier) ∧
    ((∀ line, start < line → line ≤ number + 1 →
        (BeginsWithKeyword (lineAt (lines text) line) ↔ Opens (lineAt (lines text) line))) →
      ∃ name, Defines (lineAt (lines text) start) name ∧
        overlongFunction (String.ofList name) (number - start) start (lineAt (lines text) start) ∈
          longReports text) := by
  constructor
  · rw [exists_longReport_iff]
    constructor
    · rintro ⟨last, name, ends, far⟩
      exact ⟨last, far, (long.ends_iff (by omega)).mp ⟨name, ends⟩⟩
    · rintro ⟨last, far, ends⟩
      obtain ⟨name, ends⟩ := (long.ends_iff (by omega)).mpr ends
      exact ⟨last, name, ends, far⟩
  · intro agree
    have far := long.far
    have order : start < number := by omega
    have here : EndsBefore (lines text) number :=
      ⟨long.blank, Nat.lt_of_succ_le long.next.inside.2, (agree _ (by omega) (Nat.le_refl _)).mpr
        long.next⟩
    have first : ∀ earlier, start < earlier → earlier < number →
        ¬ EndsBefore (lines text) earlier := by
      rintro earlier after before ⟨-, -, keyword⟩
      exact long.not_opens (by omega) before ((agree _ (by omega) (by omega)).mp keyword)
    obtain ⟨name, ends⟩ := (long.ends_iff order).mpr ⟨Nat.le_refl _, here, first⟩
    refine ⟨name, ends.names, mem_longReports_iff.mpr ⟨number, ?_⟩⟩
    exact mem_lengthReports_iff.mpr ⟨start, name, ends, far, rfl⟩

theorem long_definition_reports_before_next_of_space :
    let text := "def f():\n".toList ++ (List.replicate 30 "    x\n".toList).flatten ++
      "\ndef g():".toList
    LongUntilNext (lines text) 1 32 ∧
      overlongFunction "f" 31 1 "def f():".toList ∈ longReports text := by
  intro text
  have long : LongUntilNext (lines text) 1 32 := by decide +kernel
  have agree : ∀ line : Nat, 1 + 1 ≤ line → line < 32 + 1 + 1 →
      (BeginsWithKeyword (lineAt (lines text) line) ↔ Opens (lineAt (lines text) line)) := by
    decide +kernel
  obtain ⟨name, defines, reported⟩ := (long_definition_reports_before_next long).2
    fun line after upTo => agree line after (Nat.lt_succ_of_le upTo)
  have named : Defines (lineAt (lines text) 1) "f".toList := by decide +kernel
  obtain rfl := defines.unique named
  exact ⟨long, reported⟩

/-- Where a tab follows the keyword, the next definition opens but is not seen from the line before,
and the one above it is lost. -/
theorem long_definition_unreported_before_tab :
    let text := "def f():\n".toList ++ (List.replicate 30 "    x\n".toList).flatten ++
      "\ndef\tg():".toList
    LongUntilNext (lines text) 1 32 ∧ longReports text = [] := by
  decide +kernel

end LineLint.Python
