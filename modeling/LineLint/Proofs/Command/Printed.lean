import LineLint.Proofs.Command.Answered
import LineLint.Proofs.Json.RoundTrip

namespace LineLint

open Json

/-- The integers of a report have no more digits than are read. -/
structure Report.HasShortNumbers (limit : Option Nat) (report : Report) : Prop where
  lines : ∀ bug ∈ report.bugs, IsShort limit bug.line
  columns : ∀ bug ∈ report.bugs, ∀ column ∈ bug.column, IsShort limit column
  critical : IsShort limit report.summary.critical
  warning : IsShort limit report.summary.warning
  info : IsShort limit report.summary.info

theorem Report.hasShortNumbers_none (report : Report) : report.HasShortNumbers none where
  lines := fun _ _ => isShort_none _
  columns := fun _ _ _ _ => isShort_none _
  critical := isShort_none _
  warning := isShort_none _
  info := isShort_none _

section

variable {limit : Option Nat} {room : Nat}

theorem readable_ofOption {α : Type} {encode : α → Value} {value : Option α}
    (each : ∀ held ∈ value, Readable limit room (encode held)) :
    Readable limit room (.ofOption encode value) := by
  cases value with
  | none => exact .null
  | some held => exact each held rfl

theorem Bug.readable_toJson {bug : Bug} (line : IsShort limit bug.line)
    (column : ∀ column ∈ bug.column, IsShort limit column) :
    Readable limit (room + 1) bug.toJson := by
  have members : bug.toJson = .object (plainMembers [
      ("id", .text bug.id),
      ("line", .integer bug.line),
      ("column", .ofOption .integer bug.column),
      ("severity", .text bug.severity.name),
      ("category", .text bug.category),
      ("message", .text bug.message),
      ("description", .text bug.description),
      ("suggestion", .text bug.suggestion),
      ("codeSnippet", .ofOption .ofString bug.snippet)]) := rfl
  rw [members]
  apply Readable.object
  · change List.Nodup ["id", "line", "column", "severity", "category", "message", "description",
      "suggestion", "codeSnippet"]
    decide
  · simp only [List.forall_mem_cons]
    exact ⟨.text _, .integer line, readable_ofOption fun held given => .integer (column held given),
      .text _, .text _, .text _, .text _, .text _, readable_ofOption fun held _ => .text held,
      List.forall_mem_nil _⟩

theorem Report.readable_summary {report : Report} (short : report.HasShortNumbers limit) :
    Readable limit (room + 1) report.summary.toJson := by
  have members : report.summary.toJson = .object (plainMembers [
      ("critical", .ofNat report.summary.critical),
      ("warning", .ofNat report.summary.warning),
      ("info", .ofNat report.summary.info)]) := rfl
  rw [members]
  apply Readable.object
  · change List.Nodup ["critical", "warning", "info"]
    decide
  · simp only [List.forall_mem_cons]
    exact ⟨.integer short.critical, .integer short.warning, .integer short.info,
      List.forall_mem_nil _⟩

theorem readable_analysis (name : String) {report : Report}
    (short : report.HasShortNumbers limit) :
    Readable limit (room + 3) (.object (("language", .text name) :: report.members)) := by
  have members : ((.plain "language", .text name) :: report.members : Members) = plainMembers [
      ("language", .text name),
      ("bugs", .array (report.bugs.map Bug.toJson)),
      ("summary", report.summary.toJson)] := rfl
  have bugs : ∀ record ∈ report.bugs.map Bug.toJson, Readable limit (room + 1) record := by
    intro record member
    obtain ⟨bug, listed, rfl⟩ := List.mem_map.mp member
    exact Bug.readable_toJson (short.lines bug listed) (short.columns bug listed)
  rw [members]
  apply Readable.object
  · change List.Nodup ["language", "bugs", "summary"]
    decide
  · simp only [List.forall_mem_cons]
    exact ⟨.text _, .array bugs, report.readable_summary short, List.forall_mem_nil _⟩

end

theorem parseUnmarked_written {limits : Limits} {value : Value}
    (readable : Readable limits.digits limits.depth value) {rest : List CodePoint}
    (blank : skipSpace rest = []) : parseUnmarked limits (written value ++ rest) = .ok value := by
  obtain ⟨c, more, rendered, -⟩ := readable.readsBack.head
  have visible : IsVisible c := oneLine_renderValue value c (rendered ▸ List.mem_cons_self)
  rw [parseUnmarked_of_head_ne, parse_written readable blank]
  rw [written, rendered]
  rintro ⟨⟩
  exact absurd visible (by decide)

/-- An answer tells the language and all of a report. -/
structure Retold (answer : Value) (name : String) (report : Report) : Prop
    extends Conveys answer report where
  language : answer.member? "language" = some (.text name)

namespace Command

/-- The output is one line of visible ASCII, and reading it gives the report, wherever arrays and
objects may stand inside each other to a depth of three and numbers may be of any length, or of that
of the report's own. -/
structure Prints (outcome : Outcome) (name : String) (report : Report) : Prop where
  succeeds : outcome.exitCode = 0
  line : ∃ line answer, outcome.output.toList = line ++ ['\n'] ∧ OneLine line ∧
    Retold answer name report ∧
    ∀ limits : Limits, 3 ≤ limits.depth →
      (limits.digits = none ∨ report.HasShortNumbers limits.digits) →
      parseUnmarked limits (codePoints line) = .ok answer ∧
        parseUnmarked limits (codePoints outcome.output.toList) = .ok answer

theorem prints_of_retold {outcome : Outcome} {name : String} {report : Report}
    (succeeds : outcome.exitCode = 0) (retold : Retold outcome.answer name report)
    (readable : ∀ limits : Limits, 3 ≤ limits.depth → report.HasShortNumbers limits.digits →
      Readable limits.digits limits.depth outcome.answer) : Prints outcome name report where
  succeeds := succeeds
  line := by
    have printed := printed_output outcome
    refine ⟨renderValue outcome.answer, outcome.answer, printed, oneLine_renderValue _, retold, ?_⟩
    intro limits deep unlimited
    have short : report.HasShortNumbers limits.digits := by
      rcases unlimited with unlimited | short
      · rw [unlimited]
        exact report.hasShortNumbers_none
      · exact short
    have bare : parseUnmarked limits (written outcome.answer ++ []) = .ok outcome.answer :=
      parseUnmarked_written (readable limits deep short) rfl
    rw [List.append_nil] at bare
    refine ⟨bare, ?_⟩
    rw [printed, codePoints_append]
    exact parseUnmarked_written (readable limits deep short) rfl

theorem prints_analyzed (language : Language) (report : Report) :
    Prints (success (("language", .text language.name) ::
      (report.members ++ warningMembers (some ⟨.text language.name, language.name⟩))))
        language.name report := by
  have unwarned : warningMembers (some ⟨.text language.name, language.name⟩) = [] := by
    simp [warningMembers, warning?]
  rw [unwarned, List.append_nil]
  apply prints_of_retold rfl
  · exact ⟨conveys_of_members rfl rfl, rfl⟩
  · intro limits deep short
    obtain ⟨room, spare⟩ := Nat.exists_eq_add_of_le' deep
    rw [spare]
    exact readable_analysis language.name short

/-- What the command prints on a code in a registered language is the report on that code. -/
theorem run_prints {context : Context} {input code : String} {limit : Int} {language : Language}
    (reads : Reads context input limit (some (.plain code)) (some (.plain language.name)))
    (written : code ≠ "") (fits : code.utf8ByteSize ≤ limit) :
    ∃ outcome report, run context input = .ok outcome ∧
      analyzeStandard code language.name = .ok report ∧ Prints outcome language.name report := by
  obtain ⟨report, analyzed⟩ := exists_report code language.name
  have named : (language.name : Text) ≠ "" := by
    cases language <;> decide
  have judged : Judged limit (some (.plain code)) (some (.plain language.name))
      (.analyzed language.name report) :=
    .analyzed ⟨rfl, rfl, written, named⟩ fits analyzed
  exact ⟨_, report, run_eq_outcome reads judged, analyzed, prints_analyzed language report⟩

/-- A code with quotes, a backslash, a control character and one that takes two code units; all of
them are in the snippets of the report. -/
theorem run_prints_of_escapes :
    let input := "\x7b\"code\":\"eval(\\\"\\\\\\u007f\\ud83d\\ude00\\\")\",\"language\":\"php\"\x7d"
    let code := "eval(\"\\\x7f😀\")"
    let context : Context :=
      ⟨analyzeStandard, fun _ => some "99", fun _ => .error .notFound, { depth := 9 }⟩
    Reads context input 99 (some (.plain code)) (some (.plain "php")) ∧ code ≠ "" ∧
      code.utf8ByteSize ≤ 99 ∧
      ∃ outcome report, run context input = .ok outcome ∧ Prints outcome "php" report ∧
        ∃ bug ∈ report.bugs, bug.snippet = some code := by
  intro input code context
  have parsed : parseUnmarked context.limits (codePoints input.toList) =
      .ok (.object [("code", .text code), ("language", .text "php")]) := by decide +kernel
  have given : Gives [("code", .text code), ("language", .text "php")]
      (some (.plain code)) (some (.plain "php")) := ⟨rfl, rfl⟩
  have unlisted :
      Members.getD [("code", .text code), ("language", .text "php")] "files" = .null := rfl
  have reads : Reads context input 99 (some (.plain code)) (some (.plain Language.php.name)) :=
    { standard := rfl
      limited := ⟨⟨99, 99⟩, by decide +kernel, rfl⟩
      request := ⟨_, parsed, given,
        by simp [unlisted]⟩ }
  have written : code ≠ "" := by decide
  have fits : code.utf8ByteSize ≤ 99 := by decide
  obtain ⟨outcome, report, ran, analyzed, prints⟩ :=
    run_prints reads written (Int.ofNat_le.mpr fits)
  refine ⟨reads, written, fits, outcome, report, ran, prints, ?_⟩
  obtain ⟨own, bugs, passed⟩ := exists_analyzed .php code
  obtain rfl : report = Report.ofBugs bugs := Except.ok.inj (analyzed.symm.trans passed.reported)
  have found : (Language.php.findings code.toList).map (·.map (·.snippet)) =
      .ok [some code, some code] := by decide +kernel
  rw [passed.found, ← passed.identified] at found
  have shown : (bugs.map Bug.toFinding).map (·.snippet) = [some code, some code] :=
    Except.ok.inj found
  have held : some code ∈ bugs.map (·.snippet) := by
    rw [List.map_map] at shown
    exact shown ▸ List.mem_cons_self
  obtain ⟨bug, member, told⟩ := List.mem_map.mp held
  exact ⟨bug, List.mem_mergeSort.mpr member, told⟩

end Command

end LineLint
