import LineLint.Proofs.Command.Run
import LineLint.Proofs.Service.Run

namespace LineLint

open Json

theorem Utf8.size_toList (text : String) : Utf8.size text.toList = text.utf8ByteSize := by
  calc Utf8.size text.toList
      = text.toList.utf8Encode.size := by rw [List.utf8Encode, List.size_toByteArray, size, encode]
    _ = (String.ofList text.toList).utf8ByteSize := by
        rw [← String.toByteArray_ofList, String.size_toByteArray]
    _ = text.utf8ByteSize := by rw [String.ofList_toList]

/-- A text that is not there, is null or is empty. -/
def Missing (text : Option Text) : Prop := text = none ∨ text = some (.plain "")

/-- A text with surrogates in it. -/
def Broken (text : Option Text) : Prop :=
  ∃ before number after, text = some (.broken before number after)

theorem exists_eq_some_of_not_missing {text : Option Text} (given : ¬ Missing text) :
    ∃ filled, text = some filled ∧ filled ≠ "" := by
  cases text with
  | none => exact absurd (.inl rfl) given
  | some filled =>
      refine ⟨filled, rfl, ?_⟩
      rintro rfl
      exact given (.inr rfl)

theorem Text.isEmpty_eq_false {text : Text} (written : text ≠ "") : text.isEmpty = false := by
  cases text with
  | plain text =>
      have written : text ≠ "" := fun empty => written (congrArg Text.plain empty)
      simp [isEmpty, written]
  | broken => rfl

/-- A code without surrogates and a language, neither of them empty. -/
structure Filled (code language : Option Text) (text : String) (name : Text) : Prop where
  code_eq : code = some (.plain text)
  language_eq : language = some name
  written : text ≠ ""
  named : name ≠ ""

theorem Filled.not_missing {code language : Option Text} {text : String} {name : Text}
    (filled : Filled code language text name) : ¬ (Missing code ∨ Missing language) := by
  obtain ⟨rfl, rfl, written, named⟩ := filled
  simp [Missing, written, named]

theorem Filled.not_broken {code language : Option Text} {text : String} {name : Text}
    (filled : Filled code language text name) : ¬ Broken code := by
  rintro ⟨before, number, after, broken⟩
  cases filled.code_eq.symm.trans broken

theorem Filled.unique {code language : Option Text} {text other : String} {name otherName : Text}
    (filled : Filled code language text name) (again : Filled code language other otherName) :
    text = other ∧ name = otherName :=
  ⟨Text.plain.inj (Option.some.inj (filled.code_eq.symm.trans again.code_eq)),
    Option.some.inj (filled.language_eq.symm.trans again.language_eq)⟩

theorem Filled.exists_iff {code language : Option Text} {text : String} {name : Text}
    (filled : Filled code language text name) {holds : String → Prop} :
    (∃ other otherName, Filled code language other otherName ∧ holds other) ↔ holds text := by
  constructor
  · rintro ⟨other, otherName, again, held⟩
    rwa [(filled.unique again).1]
  · intro held
    exact ⟨text, name, filled, held⟩

theorem not_exists_filled {code language : Option Text} {holds : String → Prop}
    (unfilled : ∀ text name, ¬ Filled code language text name) :
    ¬ ∃ text name, Filled code language text name ∧ holds text := by
  rintro ⟨text, name, filled, -⟩
  exact unfilled text name filled

inductive Verdict
  | missing
  | unencodable
  | tooLarge
  | analyzed (language : Text) (report : Report)

/-- The verdict on a code and its language, where a code may have as many bytes as `limit` says. -/
inductive Judged (limit : Int) (code language : Option Text) : Verdict → Prop
  | missing (missing : Missing code ∨ Missing language) : Judged limit code language .missing
  | unencodable (broken : Broken code) (named : ¬ Missing language) :
      Judged limit code language .unencodable
  | tooLarge {text : String} {name : Text} (filled : Filled code language text name)
      (exceeds : limit < text.utf8ByteSize) : Judged limit code language .tooLarge
  | analyzed {text : String} {name : Text} {report : Report}
      (filled : Filled code language text name) (fits : text.utf8ByteSize ≤ limit)
      (analyzed : analyzeStandard text name = .ok report) :
      Judged limit code language (.analyzed name report)

theorem exists_judged (limit : Int) (code language : Option Text) :
    ∃ verdict, Judged limit code language verdict := by
  by_cases missing : Missing code ∨ Missing language
  · exact ⟨.missing, .missing missing⟩
  · rw [not_or] at missing
    obtain ⟨name, named, notEmpty⟩ := exists_eq_some_of_not_missing missing.2
    obtain ⟨text, written, notEmptyText⟩ := exists_eq_some_of_not_missing missing.1
    cases text with
    | broken before number after =>
        exact ⟨.unencodable, .unencodable ⟨before, number, after, written⟩ missing.2⟩
    | plain text =>
        have filled : Filled code language text name :=
          ⟨written, named, fun empty => notEmptyText (congrArg Text.plain empty), notEmpty⟩
        rcases Int.lt_or_le limit text.utf8ByteSize with exceeds | fits
        · exact ⟨.tooLarge, .tooLarge filled exceeds⟩
        · obtain ⟨report, analyzed⟩ := exists_report text name
          exact ⟨.analyzed name report, .analyzed filled fits analyzed⟩

/-- The texts that an object gives for a code and its language. One that is null or not there is
given as none. -/
structure Gives (members : Members) (code language : Option Text) : Prop where
  code : Members.getD members "code" = .ofOption .text code
  language : Members.getD members "language" = .ofOption .text language

def Verdict.outcome (limit : Int) : Verdict → Except Command.Crash Command.Outcome
  | missing => .ok Command.missingInput
  | unencodable => .error .loneSurrogate
  | tooLarge => .ok (Command.failure (Command.codeTooLarge limit) [])
  | analyzed language report =>
      .ok (Command.success (("language", .text language) ::
        (report.members ++ Command.warningMembers (some ⟨.text language, language⟩))))

namespace Command

/-- The command is to analyse a code in a language, with a limit on the code's size. -/
structure Reads (context : Context) (input : String) (limit : Int) (code language : Option Text) :
    Prop where
  standard : context.analyzer = analyzeStandard
  limited : ∃ settings, Settings.ofEnvironment context.environment = .ok settings ∧
    settings.maxCodeBytes = limit
  request : ∃ request,
    parseUnmarked context.limits (codePoints input.toList) = .ok (.object request) ∧
    Gives request code language ∧
    ∀ first rest, Members.getD request "files" ≠ .array (first :: rest)

theorem isPresent_text {text : Text} (written : text ≠ "") :
    (Value.text text).isPresent = true := by
  rw [Value.isPresent, Text.isEmpty_eq_false written]
  rfl

theorem isPresent_of_missing {text : Option Text} (missing : Missing text) :
    (Value.ofOption .text text).isPresent = false := by
  rcases missing with rfl | rfl <;> rfl

theorem languageTag_of_missing {language : Option Text} (missing : Missing language) :
    languageTag (.ofOption .text language) = .ok none := by
  rw [languageTag, isPresent_of_missing missing]
  rfl

theorem languageTag_text {name : Text} (named : name ≠ "") :
    languageTag (.text name) = .ok (some ⟨.text name, name⟩) := by
  rw [languageTag, if_pos (isPresent_text named)]
  rfl

variable {context : Context} {code language : Option Text}

section

variable {request : Members} {settings : Settings}
  (configured : Settings.ofEnvironment context.environment = .ok settings)
  (single : ∀ first rest, Members.getD request "files" ≠ .array (first :: rest))
  (given : Gives request code language)

include configured single given

theorem runRequest_of_missing (missing : Missing code ∨ Missing language) :
    runRequest context request = .ok missingInput := by
  unfold runRequest
  simp only [configured, Except.mapError, given.code, given.language, bind, Except.bind]
  by_cases unnamed : Missing language
  · rw [languageTag_of_missing unnamed]
    rfl
  · have unwritten := isPresent_of_missing (missing.resolve_right unnamed)
    obtain ⟨name, rfl, named⟩ := exists_eq_some_of_not_missing unnamed
    rw [Value.ofOption, languageTag_text named, unwritten]
    rfl

theorem runRequest_of_broken (broken : Broken code) (named : ¬ Missing language) :
    runRequest context request = .error .loneSurrogate := by
  obtain ⟨before, number, after, rfl⟩ := broken
  obtain ⟨name, rfl, notEmpty⟩ := exists_eq_some_of_not_missing named
  unfold runRequest
  simp only [configured, Except.mapError, given.code, given.language, Value.ofOption, bind,
    Except.bind, languageTag_text notEmpty]
  rfl

theorem runRequest_of_filled {text : String} {name : Text}
    (filled : Filled code language text name) :
    runRequest context request =
      .ok (runCode context settings.maxCodeBytes ⟨.text name, name⟩ text) := by
  obtain ⟨rfl, rfl, written, named⟩ := filled
  have present : (Value.text text).isPresent = true :=
    isPresent_text fun empty => written (Text.plain.inj empty)
  unfold runRequest
  simp only [configured, Except.mapError, given.code, given.language, Value.ofOption, bind,
    Except.bind, languageTag_text named, present]
  rfl

end

theorem run_eq_outcome {input : String} {limit : Int} {verdict : Verdict}
    (reads : Reads context input limit code language)
    (judged : Judged limit code language verdict) :
    run context input = verdict.outcome limit := by
  obtain ⟨settings, configured, rfl⟩ := reads.limited
  obtain ⟨request, parsed, given, single⟩ := reads.request
  have asked : run context input = runRequest context request := by
    rw [run, parsed]
  rw [asked]
  cases judged with
  | missing missing => exact runRequest_of_missing configured single given missing
  | unencodable broken named => exact runRequest_of_broken configured single given broken named
  | @tooLarge text name filled exceeds =>
      have large : Command.exceeds text settings.maxCodeBytes = true := by
        simpa [Command.exceeds, Utf8.size_toList] using exceeds
      rw [runRequest_of_filled configured single given filled, runCode, if_pos large]
      rfl
  | @analyzed text name report filled fits analyzed =>
      have small : Command.exceeds text settings.maxCodeBytes = false := by
        simpa [Command.exceeds, Utf8.size_toList] using fits
      rw [← reads.standard] at analyzed
      rw [runRequest_of_filled configured single given filled, runCode, small, analyzed]
      rfl

end Command

def Verdict.reply (limit : Int) (id : String) : Verdict → Service.Reply
  | missing => Service.detail 400 "Code and language are required"
  | unencodable => Service.internalError
  | tooLarge => Service.detail 413 (Command.codeTooLarge limit)
  | analyzed _ report => Service.ok (Service.analysisMembers (some id) none report)

namespace Service

structure Reads (service : Service) (call : Call) (limit : Int) (code language : Option Text) :
    Prop where
  faultless : call.fault = none
  saves : call.canSave = true
  limited : service.maxCodeBytes = limit
  asked : call.Asks .analyze "POST"
  request : ∃ text request, decodeBytes? call.request.body = some text ∧
    parse call.limits text = .ok (.object request) ∧ Gives request code language

variable {code language : Option Text}

theorem ofMembers_of_gives {members : Members} (given : Gives members code language) :
    Submission.ofMembers members = .ok ⟨code, language⟩ := by
  have read : ∀ text : Option Text, Submission.text? (.ofOption .text text) = some text := by
    rintro (_ | _) <;> rfl
  rw [Submission.ofMembers, given.code, given.language, read, read]

theorem ofBody_of_gives {limits : Limits} {body : List UInt8} {text : List CodePoint}
    {request : Members} (decoded : decodeBytes? body = some text)
    (parsed : parse limits text = .ok (.object request)) (given : Gives request code language) :
    Submission.ofBody limits body = .ok ⟨code, language⟩ := by
  -- No bytes are an empty text, which is no object.
  have filled : body.isEmpty = false := by
    cases body with
    | nil =>
        obtain rfl : [] = text := Option.some.inj decoded
        cases parsed
    | cons => rfl
  simp only [Submission.ofBody, filled, decoded, Submission.ofText, parsed,
    ofMembers_of_gives given]
  rfl

theorem filter_of_missing {text : Option Text} (missing : Missing text) :
    text.filter (!·.isEmpty) = none := by
  rcases missing with rfl | rfl <;> rfl

theorem filter_of_ne {text : Text} (written : text ≠ "") :
    (some text).filter (!·.isEmpty) = some text := by
  rw [Option.filter_some, Text.isEmpty_eq_false written]
  rfl

theorem analyze_of_missing {service : Service} {context : Context} {body : List UInt8}
    (given : Submission.ofBody context.limits body = .ok ⟨code, language⟩)
    (missing : Missing code ∨ Missing language) :
    service.analyze context body = (service, detail 400 "Code and language are required") := by
  rw [analyze, given]
  dsimp only
  rcases missing with unwritten | unnamed
  · rw [filter_of_missing unwritten]
  · rw [filter_of_missing unnamed]
    split
    next named => cases named
    next named => cases named
    next => rfl

theorem analyze_of_broken {service : Service} {context : Context} {body : List UInt8}
    (given : Submission.ofBody context.limits body = .ok ⟨code, language⟩) (broken : Broken code)
    (named : ¬ Missing language) : service.analyze context body = (service, internalError) := by
  obtain ⟨before, number, after, rfl⟩ := broken
  obtain ⟨name, rfl, notEmpty⟩ := exists_eq_some_of_not_missing named
  rw [analyze, given]
  dsimp only
  rw [filter_of_ne notEmpty]
  rfl

theorem analyze_of_filled {service : Service} {context : Context} {body : List UInt8}
    {text : String} {name : Text}
    (given : Submission.ofBody context.limits body = .ok ⟨code, language⟩)
    (filled : Filled code language text name) :
    service.analyze context body = service.analyzeCode context text name := by
  obtain ⟨rfl, rfl, written, named⟩ := filled
  rw [analyze, given]
  dsimp only
  rw [filter_of_ne named, filter_of_ne fun empty => written (Text.plain.inj empty)]

variable {service : Service} {call : Call} {limit : Int} {verdict : Verdict}

theorem analyze_eq_reply (reads : service.Reads call limit code language)
    (judged : Judged limit code language verdict) :
    (service.analyze call.context call.request.body).2 = verdict.reply limit call.freshId := by
  obtain ⟨text, request, decoded, parsed, gives⟩ := reads.request
  have given : Submission.ofBody call.context.limits call.request.body = .ok ⟨code, language⟩ :=
    ofBody_of_gives decoded parsed gives
  cases judged with
  | missing missing =>
      rw [analyze_of_missing given missing]
      rfl
  | unencodable broken named =>
      rw [analyze_of_broken given broken named]
      rfl
  | tooLarge filled exceeds =>
      rw [analyze_of_filled given filled, analyzeCode, reads.limited, Utf8.size_toList,
        if_pos exceeds]
      rfl
  | analyzed filled fits analyzed =>
      rw [analyze_of_filled given filled, analyzeCode, reads.limited, Utf8.size_toList,
        if_neg (Int.not_lt.mpr fits)]
      simp only [Call.context, reads.faultless, reads.saves, analyzed]
      rfl

theorem reply_eq_reply (reads : service.Reads call limit code language)
    (judged : Judged limit code language verdict) :
    service.reply call = verdict.reply limit call.freshId := by
  have asked : (service.dispatch call.context call.request).2 =
      (service.analyze call.context call.request.body).2 := by
    simp only [dispatch, reads.asked.1, reads.asked.2]
  rw [reply, asked, analyze_eq_reply reads judged]
  apply sent_of_isSendable
  cases verdict with
  | missing => exact isSendable_detail _ _ _
  | unencodable => rfl
  | tooLarge => exact isSendable_detail _ _ _
  | analyzed => exact isSendable_analysis _ _ _ _

end Service

/-- The command prints an error and exits with one. -/
def Command.FailsWith (result : Except Crash Outcome) (message : String) : Prop :=
  ∃ outcome, result = .ok outcome ∧ outcome.exitCode = 1 ∧
    outcome.answer.member? "error" = some (.text message)

@[simp] theorem Command.failsWith_failure {text message : String} {more : Members} :
    FailsWith (.ok (failure text more)) message ↔ text = message := by
  constructor
  · rintro ⟨outcome, same, -, told⟩
    cases same
    exact Text.plain.inj (Value.text.inj (Option.some.inj told))
  · rintro rfl
    exact ⟨_, rfl, rfl, rfl⟩

@[simp] theorem Command.not_failsWith_success (members : Members) (message : String) :
    ¬ FailsWith (.ok (success members)) message := by
  rintro ⟨outcome, same, failed, -⟩
  cases same
  cases failed

@[simp] theorem Command.not_failsWith_error (crash : Crash) (message : String) :
    ¬ FailsWith (.error crash) message := by
  rintro ⟨outcome, same, -⟩
  cases same

def missingMessage : String :=
  "Missing required input. Provide 'code' and 'language', or 'files' (array)."

def tooLargeMessage (limit : Int) : String :=
  "Code exceeds maximum size of " ++ toString limit ++ " bytes"

/-- A run of the command and a response of the service say the same of a code in a language. A code
with surrogates in it ends the run with nothing printed, and the request with an internal error. -/
structure Agree (limit : Int) (code language : Option Text)
    (result : Except Command.Crash Command.Outcome) (response : Service.Response) : Prop where
  accepted : (∃ outcome, result = .ok outcome ∧ outcome.exitCode = 0) ↔ response.status = 200
  missing : Command.FailsWith result missingMessage ↔ response.status = 400
  tooLarge : Command.FailsWith result (tooLargeMessage limit) ↔ response.status = 413
  crashed : (∀ outcome, result ≠ .ok outcome) ↔ response.status = 500
  accepted_iff : response.status = 200 ↔
    ∃ text name, Filled code language text name ∧ text.utf8ByteSize ≤ limit
  missing_iff : response.status = 400 ↔ Missing code ∨ Missing language
  tooLarge_iff : response.status = 413 ↔
    ∃ text name, Filled code language text name ∧ limit < text.utf8ByteSize
  crashed_iff : response.status = 500 ↔ Broken code ∧ ¬ Missing language
  conveyed : response.status = 200 → ∃ text name report outcome answer,
    Filled code language text name ∧ analyzeStandard text name = .ok report ∧
      result = .ok outcome ∧ response.body = .value answer ∧
      Conveys outcome.answer report ∧ Conveys answer report ∧
      outcome.answer.member? "bugs" = answer.member? "bugs" ∧
      outcome.answer.member? "summary" = answer.member? "summary"
  unregistered : ∀ name, language = some name → (∀ known : Language, name ≠ known.name) →
    response.status = 200 → ∃ outcome answer, result = .ok outcome ∧
      response.body = .value answer ∧ Conveys outcome.answer ⟨[], ⟨0, 0, 0⟩⟩ ∧
      Conveys answer ⟨[], ⟨0, 0, 0⟩⟩

namespace Verdict

variable {limit : Int} {id : String} {verdict : Verdict}

@[simp] theorem status_missing : (missing.reply limit id).status = 400 := rfl

@[simp] theorem status_unencodable : (unencodable.reply limit id).status = 500 := rfl

@[simp] theorem status_tooLarge : (tooLarge.reply limit id).status = 413 := rfl

@[simp] theorem status_analyzed {language : Text} {report : Report} :
    ((analyzed language report).reply limit id).status = 200 := rfl

theorem exists_success_iff :
    (∃ outcome, verdict.outcome limit = .ok outcome ∧ outcome.exitCode = 0) ↔
      (verdict.reply limit id).status = 200 := by
  cases verdict <;> simp [outcome, Command.missingInput]

theorem tooLargeMessage_ne_missingMessage : tooLargeMessage limit ≠ missingMessage := by
  have first : (tooLargeMessage limit).toList.head? = some 'C' := by
    unfold tooLargeMessage
    simp
  have other : missingMessage.toList.head? = some 'M' := by decide
  intro same
  rw [same, other] at first
  simp at first

theorem codeTooLarge_eq : Command.codeTooLarge limit = tooLargeMessage limit := rfl

theorem failsWith_missing_iff :
    Command.FailsWith (verdict.outcome limit) missingMessage ↔
      (verdict.reply limit id).status = 400 := by
  cases verdict with
  | missing =>
      rw [outcome, Command.missingInput, Command.failsWith_failure]
      exact iff_of_true rfl rfl
  | unencodable => simp [outcome]
  | tooLarge =>
      rw [outcome, Command.failsWith_failure, codeTooLarge_eq]
      exact iff_of_false tooLargeMessage_ne_missingMessage (by simp)
  | analyzed => simp [outcome]

theorem failsWith_tooLarge_iff :
    Command.FailsWith (verdict.outcome limit) (tooLargeMessage limit) ↔
      (verdict.reply limit id).status = 413 := by
  cases verdict with
  | missing =>
      rw [outcome, Command.missingInput, Command.failsWith_failure]
      exact iff_of_false tooLargeMessage_ne_missingMessage.symm (by simp)
  | unencodable => simp [outcome]
  | tooLarge =>
      rw [outcome, Command.failsWith_failure, codeTooLarge_eq]
      exact iff_of_true rfl rfl
  | analyzed => simp [outcome]

theorem forall_ne_ok_iff :
    (∀ outcome, verdict.outcome limit ≠ .ok outcome) ↔
      (verdict.reply limit id).status = 500 := by
  cases verdict <;> simp [outcome, Command.missingInput]

end Verdict

namespace Judged

variable {limit : Int} {code language : Option Text} {verdict : Verdict}

theorem status_eq_200_iff (judged : Judged limit code language verdict) (id : String) :
    (verdict.reply limit id).status = 200 ↔
      ∃ text name, Filled code language text name ∧ text.utf8ByteSize ≤ limit := by
  cases judged with
  | missing missing =>
      exact iff_of_false (by simp) (not_exists_filled fun _ _ filled => filled.not_missing missing)
  | unencodable broken named =>
      exact iff_of_false (by simp) (not_exists_filled fun _ _ filled => filled.not_broken broken)
  | tooLarge filled exceeds =>
      rw [filled.exists_iff]
      exact iff_of_false (by simp) (Int.not_le.mpr exceeds)
  | analyzed filled fits analyzed =>
      rw [filled.exists_iff]
      exact iff_of_true rfl fits

theorem not_missing_of_broken (broken : Broken code) (named : ¬ Missing language) :
    ¬ (Missing code ∨ Missing language) := by
  obtain ⟨before, number, after, rfl⟩ := broken
  rintro (unwritten | unnamed)
  · rcases unwritten with absent | empty
    · cases absent
    · cases empty
  · exact named unnamed

theorem status_eq_400_iff (judged : Judged limit code language verdict) (id : String) :
    (verdict.reply limit id).status = 400 ↔ Missing code ∨ Missing language := by
  cases judged with
  | missing missing => exact iff_of_true rfl missing
  | unencodable broken named =>
      exact iff_of_false (by simp) (not_missing_of_broken broken named)
  | tooLarge filled exceeds =>
      exact iff_of_false (by simp) filled.not_missing
  | analyzed filled fits analyzed =>
      exact iff_of_false (by simp) filled.not_missing

theorem status_eq_413_iff (judged : Judged limit code language verdict) (id : String) :
    (verdict.reply limit id).status = 413 ↔
      ∃ text name, Filled code language text name ∧ limit < text.utf8ByteSize := by
  cases judged with
  | missing missing =>
      exact iff_of_false (by simp) (not_exists_filled fun _ _ filled => filled.not_missing missing)
  | unencodable broken named =>
      exact iff_of_false (by simp) (not_exists_filled fun _ _ filled => filled.not_broken broken)
  | tooLarge filled exceeds =>
      rw [filled.exists_iff]
      exact iff_of_true rfl exceeds
  | analyzed filled fits analyzed =>
      rw [filled.exists_iff]
      exact iff_of_false (by simp) (Int.not_lt.mpr fits)

theorem status_eq_500_iff (judged : Judged limit code language verdict) (id : String) :
    (verdict.reply limit id).status = 500 ↔ Broken code ∧ ¬ Missing language := by
  cases judged with
  | missing missing =>
      refine iff_of_false (by simp) ?_
      rintro ⟨broken, named⟩
      exact not_missing_of_broken broken named missing
  | unencodable broken named => exact iff_of_true rfl ⟨broken, named⟩
  | tooLarge filled exceeds =>
      exact iff_of_false (by simp) fun broken => filled.not_broken broken.1
  | analyzed filled fits analyzed =>
      exact iff_of_false (by simp) fun broken => filled.not_broken broken.1

theorem exists_report_of_status (judged : Judged limit code language verdict) {id : String}
    (succeeds : (verdict.reply limit id).status = 200) :
    ∃ text name report outcome answer, Filled code language text name ∧
      analyzeStandard text name = .ok report ∧ verdict.outcome limit = .ok outcome ∧
      (verdict.reply limit id).body = .value answer ∧
      Conveys outcome.answer report ∧ Conveys answer report ∧
      outcome.answer.member? "bugs" = answer.member? "bugs" ∧
      outcome.answer.member? "summary" = answer.member? "summary" := by
  cases judged with
  | missing => simp at succeeds
  | unencodable => simp at succeeds
  | tooLarge => simp at succeeds
  | analyzed filled fits analyzed =>
      exact ⟨_, _, _, _, _, filled, analyzed, rfl, rfl, conveys_of_members rfl rfl,
        conveys_of_members rfl rfl, rfl, rfl⟩

theorem agree (judged : Judged limit code language verdict) {id : String}
    {response : Service.Response} (status : response.status = (verdict.reply limit id).status)
    (body : response.body = (verdict.reply limit id).body) :
    Agree limit code language (verdict.outcome limit) response where
  accepted := status ▸ Verdict.exists_success_iff
  missing := status ▸ Verdict.failsWith_missing_iff
  tooLarge := status ▸ Verdict.failsWith_tooLarge_iff
  crashed := status ▸ Verdict.forall_ne_ok_iff
  accepted_iff := status ▸ judged.status_eq_200_iff id
  missing_iff := status ▸ judged.status_eq_400_iff id
  tooLarge_iff := status ▸ judged.status_eq_413_iff id
  crashed_iff := status ▸ judged.status_eq_500_iff id
  conveyed := fun succeeds => by
    rw [body]
    exact judged.exists_report_of_status (status ▸ succeeds)
  unregistered := fun name named unregistered succeeds => by
    obtain ⟨text, other, report, outcome, answer, filled, analyzed, ran, held, printed, sent, -⟩ :=
      judged.exists_report_of_status (status ▸ succeeds)
    obtain rfl : name = other := Option.some.inj (named.symm.trans filled.language_eq)
    rw [analyzeStandard_of_unregistered (Language.ofText?_eq_none unregistered)] at analyzed
    cases analyzed
    exact ⟨outcome, answer, ran, body.trans held, printed, sent⟩

end Judged

/-- The command and the service agree on every code and language, and on those that either accepts
they give the same report. -/
theorem command_agrees_with_service {context : Command.Context} {input : String}
    {service : Service} {call : Service.Call} {limit : Int} {code language : Option Text}
    (reads : Command.Reads context input limit code language)
    (alike : service.Reads call limit code language) :
    Agree limit code language (Command.run context input) (service.answer call) := by
  obtain ⟨verdict, judged⟩ := exists_judged limit code language
  have replied := Service.reply_eq_reply alike judged
  rw [Command.run_eq_outcome reads judged]
  apply judged.agree
  · rw [Service.status_answer, replied]
  · rw [Service.body_answer, replied]

/-- A code of two bytes where two are allowed, in a language that is not registered. -/
theorem command_agrees_with_service_of_unregistered :
    let input := "\x7b\"code\":\"é\",\"language\":\"b\"\x7d"
    let context : Command.Context :=
      ⟨analyzeStandard, fun _ => some "2", fun _ => .error .notFound, { depth := 9 }⟩
    let service : Service := ⟨2, ⟨1, []⟩⟩
    let call : Service.Call :=
      { request := ⟨"POST", "/analyze", Utf8.encode input.toList, none⟩, freshId := "1", now := ""
        limits := { depth := 9 }, refusalDepth := 9 }
    Command.Reads context input 2 (some "é") (some "b") ∧
      service.Reads call 2 (some "é") (some "b") ∧
      (service.answer call).status = 200 ∧
      ∃ outcome, Command.run context input = .ok outcome ∧ outcome.exitCode = 0 ∧
        Conveys outcome.answer Report.empty := by
  intro input context service call
  have parsed : parse context.limits (codePoints input.toList) =
      .ok (.object [("code", .text "é"), ("language", .text "b")]) := by decide +kernel
  have given : Gives [("code", .text "é"), ("language", .text "b")] (some "é") (some "b") :=
    ⟨rfl, rfl⟩
  have unlisted : Members.getD [("code", .text "é"), ("language", .text "b")] "files" = .null := rfl
  have reads : Command.Reads context input 2 (some "é") (some "b") :=
    { standard := rfl
      limited := ⟨⟨2, 2⟩, by decide +kernel, rfl⟩
      request := ⟨_, (parseUnmarked_of_head_ne (by decide)).trans parsed, given,
        by simp [unlisted]⟩ }
  have alike : service.Reads call 2 (some "é") (some "b") :=
    { faultless := rfl
      saves := rfl
      limited := rfl
      asked := ⟨by decide +kernel, by decide +kernel⟩
      request := ⟨codePoints input.toList, _, by decide +kernel, parsed, given⟩ }
  have agree := command_agrees_with_service reads alike
  have accepted : (service.answer call).status = 200 :=
    agree.accepted_iff.mpr ⟨"é", "b", ⟨rfl, rfl, by decide, by decide⟩, by decide⟩
  obtain ⟨outcome, ran, exited⟩ := agree.accepted.mpr accepted
  have unregistered : ∀ known : Language, (.plain "b" : Text) ≠ known.name := by
    intro known
    cases known <;> decide
  obtain ⟨other, answer, again, -, conveyed, -⟩ := agree.unregistered "b" rfl unregistered accepted
  cases ran.symm.trans again
  exact ⟨reads, alike, accepted, outcome, ran, exited, conveyed⟩

/-- A code in an unregistered language that neither accepts, as it has a surrogate in it. -/
theorem rejected_of_surrogate_in_code :
    let input := "\x7b\"code\":\"\\ud800\",\"language\":\"cobol\"\x7d"
    let context : Command.Context :=
      ⟨analyzeStandard, fun _ => none, fun _ => .error .notFound, { depth := 9 }⟩
    let service : Service := ⟨1000000, ⟨1, []⟩⟩
    let call : Service.Call :=
      { request := ⟨"POST", "/analyze", Utf8.encode input.toList, none⟩, freshId := "1", now := ""
        limits := { depth := 9 }, refusalDepth := 9 }
    let code : Text := .broken "" 0 []
    let language : Text := "cobol"
    Command.Reads context input 1000000 (some code) (some language) ∧
      service.Reads call 1000000 (some code) (some language) ∧
      (∀ known : Language, language ≠ known.name) ∧
      Command.run context input = .error .loneSurrogate ∧ (service.answer call).status = 500 := by
  intro input context service call code language
  have parsed : parse context.limits (codePoints input.toList) =
      .ok (.object [("code", .text code), ("language", .text language)]) := by decide +kernel
  have unlisted :
      Members.getD [("code", .text code), ("language", .text language)] "files" = .null := rfl
  refine ⟨?_, ?_, ?_, by decide +kernel, by decide +kernel⟩
  · exact
      { standard := rfl
        limited := ⟨{}, by decide +kernel, rfl⟩
        request := ⟨_, (parseUnmarked_of_head_ne (by decide)).trans parsed, ⟨rfl, rfl⟩,
          by simp [unlisted]⟩ }
  · exact
      { faultless := rfl
        saves := rfl
        limited := rfl
        asked := ⟨by decide +kernel, by decide +kernel⟩
        request := ⟨codePoints input.toList, _, by decide +kernel, parsed, ⟨rfl, rfl⟩⟩ }
  · intro known
    cases known <;> decide

end LineLint
