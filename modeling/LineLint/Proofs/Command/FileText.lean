import LineLint.Proofs.Command.Files
import LineLint.Proofs.Text.LineBreaks
import LineLint.Proofs.Text.Utf8

namespace LineLint.Command

open Json

/-- The bytes of a text that is saved with a certain line break. -/
def savedBytes (ending : LineBreak) (text : String) : List UInt8 :=
  Utf8.encode (writeBreaks ending text.toList)

theorem fileText_savedBytes (ending : LineBreak) {text : String} (plain : '\r' ∉ text.toList) :
    fileText (savedBytes ending text) = text := by
  rw [fileText, savedBytes, Utf8.decode_encode, normalizeBreaks_writeBreaks ending plain,
    String.ofList_toList]

theorem exceeds_iff {code : String} {limit : Int} :
    exceeds code limit = true ↔ limit < code.utf8ByteSize := by
  rw [exceeds, Utf8.size_toList, decide_eq_true_iff]

section

variable {context : Context} {limit : Int} {tag : Tag} {code : String}

theorem analyzeFile_of_lt (large : limit < code.utf8ByteSize) :
    analyzeFile context limit tag code = .ok (.error (fileTooLarge limit)) := by
  rw [analyzeFile, if_pos (exceeds_iff.mpr large)]

theorem analyzeFile_of_le {report : Report} (fits : code.utf8ByteSize ≤ limit)
    (analyzed : context.analyzer code tag.name = .ok report) :
    analyzeFile context limit tag code = .ok (.ok (tag.value, report)) := by
  have small : ¬ exceeds code limit = true := by
    rw [exceeds_iff]
    exact Int.not_lt.mpr fits
  rw [analyzeFile, if_neg small, analyzed]

end

def oversize (limit : Int) : String := "File exceeds maximum size of " ++ toString limit ++ " bytes"

/-- A run over one file and a run on a code of the same text. -/
structure FileAgrees (limit : Int) (text : String) (language : Text) (ofFile ofCode : Outcome)
    (answer : Value) : Prop where
  listed : ofFile.answer.member? "files" = some (.array [answer])
  rejected : answer.member? "error" = some (.text (oversize limit)) ↔
    ofCode = failure (tooLargeMessage limit) []
  tooLarge : ofCode = failure (tooLargeMessage limit) [] ↔ limit < text.utf8ByteSize
  accepted : answer.member? "error" = none ↔ ofCode.exitCode = 0
  fits : ofCode.exitCode = 0 ↔ text.utf8ByteSize ≤ limit
  conveyed : ofCode.exitCode = 0 → ∃ report, analyzeStandard text language = .ok report ∧
    answer.member? "language" = some (.text language) ∧
    ofCode.answer.member? "language" = some (.text language) ∧
    Conveys answer report ∧ Conveys ofCode.answer report
  warned : ofCode.exitCode = 0 →
    ofFile.answer.member? "warning" = ofCode.answer.member? "warning"

theorem fileAgrees_of_lt {limit : Int} {text : String} {language : Text} {requested : Option Tag}
    {name : Value} (large : limit < text.utf8ByteSize) :
    FileAgrees limit text language
      (filesOutcome requested [⟨name, .error (fileTooLarge limit)⟩])
      (failure (codeTooLarge limit) [])
      (FileResult.toJson ⟨name, .error (fileTooLarge limit)⟩) where
  listed := rfl
  rejected := iff_of_true rfl rfl
  tooLarge := iff_of_true rfl large
  accepted := iff_of_false nofun nofun
  fits := iff_of_false nofun (Int.not_le.mpr large)
  conveyed := nofun
  warned := nofun

theorem fileAgrees_of_le {limit : Int} {text : String} {language : Text} {tag : Tag} {name : Value}
    {report : Report} (fits : text.utf8ByteSize ≤ limit)
    (analyzed : analyzeStandard text language = .ok report) :
    FileAgrees limit text language
      (filesOutcome (some tag) [⟨name, .ok (.text language, report)⟩])
      (success (("language", .text language) :: (report.members ++ warningMembers (some tag))))
      (FileResult.toJson ⟨name, .ok (.text language, report)⟩) where
  listed := rfl
  rejected := iff_of_false nofun (by simp)
  tooLarge := iff_of_false (by simp) (Int.not_lt.mpr fits)
  accepted := iff_of_true rfl rfl
  fits := iff_of_true rfl fits
  conveyed := fun _ => ⟨report, analyzed, rfl, rfl, conveys_of_members rfl rfl,
    conveys_of_members rfl rfl⟩
  warned := fun _ => rfl

/-- A text in a file, with any line break, is reported on as the same text in a request is. -/
theorem file_agrees_with_code {context : Context} {filesInput codeInput : String} {limit : Int}
    {text : String} {language : Text} {entry : FileEntry} {location : SystemName}
    {ending : LineBreak} (written : text ≠ "") (plain : '\r' ∉ text.toList) (named : language ≠ "")
    (located : entry.path.systemBytes? = some location)
    (opened : context.reader location = .ok (savedBytes ending text))
    (asked : AsksFiles context filesInput limit (some language) [entry])
    (reads : Reads context codeInput limit (some (.plain text)) (some language)) :
    ∃ ofFile ofCode answer, run context filesInput = .ok ofFile ∧
      run context codeInput = .ok ofCode ∧
      FileAgrees limit text language ofFile ofCode answer := by
  have filled : Filled (some (.plain text)) (some language) text language :=
    ⟨rfl, rfl, written, named⟩
  have ran : ∀ {outcome},
      analyzeFile context limit ⟨.text language, language⟩ text = .ok outcome →
        run context filesInput = .ok (filesOutcome (some ⟨.text language, language⟩)
          [⟨.text entry.fileName, outcome⟩]) := by
    intro outcome analyzed
    rw [← fileText_savedBytes ending plain] at analyzed
    have alone : TellsAlone context limit (some language) entry
        ⟨.text entry.fileName, outcome⟩ := by
      intro streams
      rw [requestedTag_some named]
      exact .read entry.fileName_eq rfl (entry.ofValue_of_systemBytes? located)
        (congrArg (·, streams) opened) analyzed
    rw [← requestedTag_some named]
    exact alone.filesRun.requests filesInput asked (List.cons_ne_nil _ _)
  rcases Int.lt_or_le limit text.utf8ByteSize with large | fits
  · exact ⟨_, _, _, ran (analyzeFile_of_lt large), run_eq_outcome reads (.tooLarge filled large),
      fileAgrees_of_lt large⟩
  · obtain ⟨report, analyzed⟩ := exists_report text language
    have found : context.analyzer text language = .ok report := by
      rw [reads.standard]
      exact analyzed
    exact ⟨_, _, _, ran (analyzeFile_of_le fits found),
      run_eq_outcome reads (.analyzed filled fits analyzed), fileAgrees_of_le fits analyzed⟩

/-- Three bytes where three are allowed, saved as four. -/
theorem file_agrees_with_code_of_longer_break :
    let filesInput := "\x7b\"files\":[\x7b\"path\":\"p\"\x7d],\"language\":\"b\"\x7d"
    let codeInput := "\x7b\"code\":\"é\\n\",\"language\":\"b\"\x7d"
    let context : Context := ⟨analyzeStandard, fun _ => some "3",
      fun _ => .ok (savedBytes .both "é\n"), { depth := 9 }⟩
    let entry : FileEntry := ⟨[("path", .text "p")], "p", none, rfl, rfl, by decide⟩
    entry.path.systemBytes? = some [0x70] ∧
      context.reader [0x70] = .ok (savedBytes .both "é\n") ∧
      (savedBytes .both "é\n").length = 4 ∧
      AsksFiles context filesInput 3 (some (.plain "b")) [entry] ∧
      Reads context codeInput 3 (some (.plain "é\n")) (some (.plain "b")) ∧
      ∃ ofFile ofCode answer, run context filesInput = .ok ofFile ∧
        run context codeInput = .ok ofCode ∧ ofCode.exitCode = 0 ∧
        FileAgrees 3 "é\n" "b" ofFile ofCode answer := by
  intro filesInput codeInput context entry
  have settings : Settings.ofEnvironment context.environment = .ok ⟨3, 3⟩ := by decide +kernel
  have filesParsed : parseUnmarked context.limits (codePoints filesInput.toList) =
      .ok (.object [("files", .array [entry.toJson]), ("language", .text "b")]) := by decide +kernel
  have codeParsed : parseUnmarked context.limits (codePoints codeInput.toList) =
      .ok (.object [("code", .text "é\n"), ("language", .text "b")]) := by decide +kernel
  have located : entry.path.systemBytes? = some [0x70] := by decide
  have asked : AsksFiles context filesInput 3 (some (.plain "b")) [entry] :=
    { limited := ⟨⟨3, 3⟩, settings, rfl⟩
      request := ⟨_, filesParsed, rfl, rfl⟩ }
  have unlisted :
      Members.getD [("code", .text "é\n"), ("language", .text "b")] "files" = .null := rfl
  have reads : Reads context codeInput 3 (some (.plain "é\n")) (some (.plain "b")) :=
    { standard := rfl
      limited := ⟨⟨3, 3⟩, settings, rfl⟩
      request := ⟨_, codeParsed, ⟨rfl, rfl⟩,
        by simp [unlisted]⟩ }
  obtain ⟨ofFile, ofCode, answer, fileRan, codeRan, agrees⟩ :=
    file_agrees_with_code (by decide) (by decide) (by decide) located rfl asked reads
  exact ⟨located, rfl, by decide +kernel, asked, reads, ofFile, ofCode, answer, fileRan, codeRan,
    agrees.fits.mpr (by decide), agrees⟩

end LineLint.Command
