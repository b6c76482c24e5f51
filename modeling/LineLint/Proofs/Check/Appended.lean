import LineLint.Proofs.Bug.Numbering
import LineLint.Proofs.Check.DoubleFree
import LineLint.Proofs.Scan.Append

namespace LineLint

theorem Quality.extends_machine : machine.Extends where
  near := fun _ _ _ _ _ _ => rfl
  last := fun _ _ _ _ => List.prefix_rfl

namespace Python

theorem closes_of_closes_nil {line : Line} (ends : closes line [] = true) (rest : List Line) :
    closes line rest = true := by
  have returns : "return".toList.isPrefixOf (strip line) = true := by
    simpa [closes, endsBeforeDefinition] using ends
  rw [closes, returns, Bool.true_or]

theorem extends_machine : machine.Extends where
  near := fun _ _ _ _ _ _ => rfl
  last := fun current number line more => by
    refine (List.prefix_append_right_inj _).mpr ?_
    rw [OpenFunction.feed_snd, OpenFunction.feed_snd]
    by_cases ends : closes line [] = true
    · simp only [ends, closes_of_closes_nil ends, List.prefix_rfl]
    · rw [Bool.not_eq_true] at ends
      rw [ends, Bool.and_false, if_neg Bool.false_ne_true]
      exact List.nil_prefix

end Python

namespace CFamily

theorem doubleFrees_append {text : List Char} {line : Line} (held : line <:+: text)
    (rest : List Char) (number : Nat) :
    doubleFrees (text ++ rest) number line = doubleFrees text number line := by
  rw [doubleFrees, doubleFrees, freesTwice, freesTwice, textBefore_append held]

/-- What is found on a line of a text, which is searched for what was freed before. -/
def findingsOn (text : List Char) (number : Nat) (line : Line) : List Finding :=
  Rule.check leadingRules number line ++ doubleFrees text number line ++
    Rule.check trailingRules number line

theorem check_eq (text : List Char) :
    check text = scanFrom (fun number line _ => findingsOn text number line) 1 (lines text) := rfl

theorem check_prefix (text more : List Char) : check text <+: check (text ++ '\n' :: more) := by
  have same : scanFrom (fun number line _ => findingsOn (text ++ '\n' :: more) number line) 1
        (lines text) =
      scanFrom (fun number line _ => findingsOn text number line) 1 (lines text) := by
    apply scanFrom_congr
    intro line member number rest
    simp only [findingsOn, doubleFrees_append (infix_of_mem_lines member)]
  rw [check_eq, check_eq, lines_append, scanFrom_append, same]
  exact List.prefix_append _ _

end CFamily

/-- Lines below a text leave the bugs that are found in it, identifiers included, as they are and
in front of all others. -/
def KeepsBugs (check : List Char → List Finding) : Prop :=
  ∀ (language : String) (text more : List Char), ∃ bugs added,
    numbered language (check text) = .ok bugs ∧
      numbered language (check (text ++ '\n' :: more)) = .ok (bugs ++ added)

theorem keepsBugs_of_continued {check : List Char → List Finding} {issued : Notice → Prop}
    (filed : ∀ text, AllFiled issued (lines text) (check text))
    (kept : ∀ text more, check text <+: check (text ++ '\n' :: more)) : KeepsBugs check := by
  intro language text more
  obtain ⟨added, whole⟩ := kept text more
  have valid := (filed (text ++ '\n' :: more)).one_le_line
  rw [← whole] at valid
  obtain ⟨bugs, others, entered, enteredAll, -⟩ := exists_numbered_append valid language
  exact ⟨bugs, others, entered, whole ▸ enteredAll⟩

/-- What the checks with a state have found in a text stays found when lines are added to it. -/
theorem added_lines_keep_bugs :
    KeepsBugs Quality.check ∧ KeepsBugs Python.check ∧ KeepsBugs CFamily.check := by
  refine ⟨?_, ?_, ?_⟩
  · exact @keepsBugs_of_continued _ (fun _ => True)
      (Quality.allFiled_check (fun _ _ => trivial) fun _ => trivial)
      Quality.extends_machine.run_prefix
  · exact keepsBugs_of_continued Python.allFiled_check Python.extends_machine.run_prefix
  · exact keepsBugs_of_continued
      (CFamily.allFiled_check (Language.issues_rules .c) (.written (.head _))) CFamily.check_prefix

/-- The finding on a line that stands so many lines further down. -/
def Finding.shift (lines : Nat) (finding : Finding) : Finding :=
  { finding with line := finding.line + lines }

theorem Notice.at_add (notice : Notice) (number lines : Nat) (line : Line) :
    notice.at (number + lines) line = (notice.at number line).shift lines := by
  rw [Notice.at, Int.natCast_add]
  rfl

section

variable {table : List Rule}

theorem scanFrom_check_add (number lines : Nat) (all : List Line) :
    scanFrom (fun number line _ => Rule.check table number line) (number + lines) all =
      (scanFrom (fun number line _ => Rule.check table number line) number all).map
        (·.shift lines) := by
  induction all generalizing number with
  | nil => rfl
  | cons line rest induction =>
      have next : number + lines + 1 = number + 1 + lines := Nat.add_right_comm number lines 1
      have here : Rule.check table (number + lines) line =
          (Rule.check table number line).map (·.shift lines) := by
        simp only [Rule.check, Notice.at_add, List.map_map, Function.comp_def]
      rw [scanFrom_cons, scanFrom_cons, List.map_append, next, induction, here]

theorem scanRules_append (first second : List Char) :
    scanRules table (first ++ '\n' :: second) =
      scanRules table first ++ (scanRules table second).map (·.shift (lines first).length) := by
  rw [scanRules, scan, lines_append, scanFrom_append, scanFrom_check_add]
  rfl

end

/-- The bug as it is found in a text that goes on from another one, after whose lines and whose
ordinals its own are counted. -/
structure ContinuesAs (language : String) (lines issued : Nat) (bug other : Bug) : Prop where
  finding : other.toFinding = bug.toFinding.shift lines
  id : ∃ ordinal,
    bug.id = language ++ "-" ++ toString bug.line ++ "-" ++ toString ordinal ∧
    other.id = language ++ "-" ++ toString (bug.line + lines) ++ "-" ++ toString (ordinal + issued)

/-- Two texts with a line break between them have the bugs of the first and then those of the
second, counted on from the first. -/
theorem joined_texts_join_bugs (language : String) (table : List Rule) (first second : List Char) :
    ∃ bugs others continued,
      numbered language (scanRules table first) = .ok bugs ∧
      numbered language (scanRules table second) = .ok others ∧
      numbered language (scanRules table (first ++ '\n' :: second)) = .ok (bugs ++ continued) ∧
      List.Forall₂ (ContinuesAs language (lines first).length bugs.length) others continued := by
  have filed : ∀ text, AllFiled (fun _ => True) (lines text) (scanRules table text) :=
    allFiled_scanRules fun _ _ => trivial
  have valid := (filed (first ++ '\n' :: second)).one_le_line
  rw [scanRules_append] at valid
  obtain ⟨bugs, continued, entered, enteredAll, findings, continuedFindings, continuedNumbered⟩ :=
    exists_numbered_append valid language
  obtain ⟨others, otherEntered, otherFindings, otherNumbered⟩ :=
    exists_numbered (filed second).one_le_line language
  have issued : (scanRules table first).length = bugs.length := by
    rw [← findings, List.length_map]
  refine ⟨bugs, others, continued, entered, otherEntered, by rw [scanRules_append, enteredAll], ?_⟩
  rw [issued] at continuedNumbered
  have pairs : List.Forall₂ (fun finding other => other = finding.shift (lines first).length)
      (others.map Bug.toFinding) (continued.map Bug.toFinding) := by
    rw [continuedFindings, otherFindings, List.forall₂_map_right_iff, List.forall₂_same]
    exact fun _ _ => rfl
  refine (otherNumbered.forall₂ continuedNumbered pairs).imp ?_
  rintro bug other ⟨same, place, id, otherId⟩
  have line : other.line = bug.line + (lines first).length := congrArg Finding.line same
  exact ⟨same, place, by rw [id, bugId, Nat.zero_add],
    by rw [otherId, bugId, line, Nat.add_comm place]⟩

end LineLint
