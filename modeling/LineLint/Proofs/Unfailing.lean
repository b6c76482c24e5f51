import LineLint.Proofs.Analysis
import LineLint.Proofs.Command.Agreement
import LineLint.Proofs.Service.Integrity

namespace LineLint

open BraceSpan Python

/-- Whatever is looked up in a text while it is checked stands on one of its lines. -/
structure Grounded (text : List Char) : Prop where
  findings : ∀ language : Language, ∃ findings, language.findings text = .ok findings ∧
    ∀ finding ∈ findings, 1 ≤ finding.line ∧ finding.line ≤ (lines text).length
  spans : ∀ spelling number span, 1 ≤ number →
    Tracker.spanAt spelling (lines text) number = some span →
      1 ≤ span.start ∧ span.start ≤ number
  definitions : ∀ seen,
    let current := (machine.stateAfter (lines text) seen).enter (seen + 1)
      (lineAt (lines text) (seen + 1 : Nat))
    current.inside = true → 1 ≤ current.start ∧ current.start ≤ seen + 1
  console : Script.consoleCall.occursIn text = true →
    ∃ line number, Script.consoleLine? text = some (line, number) ∧
      1 ≤ number ∧ mentions line "console.log" = true

theorem grounded (text : List Char) : Grounded text where
  findings := fun language => by
    obtain ⟨own, -, found, filed⟩ := language.exists_findings text
    refine ⟨_, found, ?_⟩
    intro finding member
    obtain ⟨notice, number, -, first, last, rfl⟩ := filed finding member
    rw [Notice.line_at]
    omega
  spans := fun spelling number span first ends => by
    obtain ⟨start, opened, rfl⟩ := (Tracker.spanAt_eq_some_iff first).mp ends
    exact ⟨opened.first, opened.reached⟩
  definitions := fun seen inside => by
    obtain ⟨first, reached, -⟩ := (opened_stateAfter (lines text) seen).enter inside
    exact ⟨first, reached⟩
  console := fun logs => by
    obtain ⟨line, number, found⟩ := Script.exists_consoleLine logs
    have named := List.find?_some found
    exact ⟨line, number, found, (Script.consoleLine?_spec found).1, named⟩

namespace Service

/-- The requests that end in a failure though every analysis succeeds. -/
inductive Fails (service : Service) (context : Context) (request : Request) : Prop
  | unencodable {before : String} {number : Fin 0x800} {after : List CodePoint} {language : Text}
      (asked : request.Asks .analyze "POST") (named : language ≠ "")
      (given : Submission.ofBody context.limits request.body =
        .ok ⟨some (.broken before number after), some language⟩)
  | refused {refusals : List Refusal} {refusal : Refusal}
      (asked : request.Asks .analyze "POST")
      (refused : Submission.ofBody context.limits request.body = .error (.refused refusals))
      (member : refusal ∈ refusals)
      (untold : refusal.value.isStandard = false ∨ context.refusalDepth < refusal.value.depth)
  | unlisted (asked : request.Asks .history "GET") (unable : context.canList = false)
  | unlistable {analysis : Analysis} (asked : request.Asks .history "GET")
      (member : analysis ∈ service.history.analyses.take 50)
      (broken : ∀ name, analysis.language ≠ .plain name)
  | unshowable {id : String} {analysis : Analysis} (asked : request.Asks (.analysis id) "GET")
      (found : service.history.get? id = some analysis)
      (broken : ∀ name, analysis.language ≠ .plain name)

theorem status_sent_iff {reply : Reply} {refusalDepth : Nat} :
    (reply.sent refusalDepth).status = 500 ↔
      reply.body.isSendable refusalDepth = false ∨ reply.status = 500 := by
  cases sendable : reply.body.isSendable refusalDepth with
  | true => simp [sent_of_isSendable sendable]
  | false => simp [sent_of_not_isSendable sendable, internalError]

@[simp] theorem status_sent_detail (status refusalDepth : Nat) (text : String) :
    ((detail status text).sent refusalDepth).status = status := by
  rw [sent_of_isSendable (isSendable_detail _ _ _)]
  rfl

theorem isSendable_refusal_eq_false_iff {refusals : List Refusal} {refusalDepth : Nat} :
    (Body.refusal refusals).isSendable refusalDepth = false ↔
      ∃ refusal ∈ refusals,
        refusal.value.isStandard = false ∨ refusalDepth < refusal.value.depth := by
  simp only [Body.isSendable, List.all_eq_false, Bool.and_eq_true, decide_eq_true_eq, not_and_or,
    Bool.not_eq_true, Nat.not_le]

theorem isPlain_eq_false_iff {text : Text} :
    text.isPlain = false ↔ ∀ name, text ≠ .plain name := by
  cases text with
  | plain text => exact iff_of_false (by simp) fun other => other text rfl
  | broken => exact iff_of_true rfl (by simp)

variable {service : Service} {context : Context} {request : Request}

theorem isSendable_getAnalysis (refusalDepth : Nat) (analysis : Analysis) :
    (ok [("analysis", analysis.toJson)]).body.isSendable refusalDepth =
      analysis.language.isPlain := by
  simp [ok, Body.isSendable, isStandard_toJson]

theorem fails_of_listHistory (asked : request.Asks .history "GET")
    (failed : ((service.listHistory context).sent context.refusalDepth).status = 500) :
    Fails service context request := by
  unfold listHistory at failed
  split at failed
  next =>
    rcases status_sent_iff.mp failed with unsendable | status
    · rw [isSendable_recent, List.all_eq_false] at unsendable
      obtain ⟨analysis, member, broken⟩ := unsendable
      rw [Bool.not_eq_true] at broken
      exact .unlistable asked member (isPlain_eq_false_iff.mp broken)
    · simp [ok] at status
  next unable => exact .unlisted asked (Bool.eq_false_iff.mpr unable)

theorem fails_of_getAnalysis {id : String} (asked : request.Asks (.analysis id) "GET")
    (failed : ((service.getAnalysis id).sent context.refusalDepth).status = 500) :
    Fails service context request := by
  unfold getAnalysis at failed
  split at failed
  next analysis found =>
    rcases status_sent_iff.mp failed with unsendable | status
    · rw [isSendable_getAnalysis] at unsendable
      exact .unshowable asked found (isPlain_eq_false_iff.mp unsendable)
    · simp [ok] at status
  next => simp [analysisNotFound] at failed

section

variable (standard : context.analyzer = analyzeStandard)

include standard

theorem status_analyzeCode (code : String) (language : Text) :
    ((service.analyzeCode context code language).2.sent context.refusalDepth).status ≠ 500 := by
  obtain ⟨report, analyzed⟩ := exists_report code language
  rw [← standard] at analyzed
  unfold analyzeCode
  split
  next => simp
  next =>
    rw [analyzed]
    dsimp only
    split
    all_goals
      rw [sent_of_isSendable (isSendable_analysis _ _ _ _)]
      simp [ok]

theorem fails_of_analyze (asked : request.Asks .analyze "POST")
    (failed : ((service.analyze context request.body).2.sent context.refusalDepth).status = 500) :
    Fails service context request := by
  unfold analyze at failed
  split at failed
  next error refused =>
    cases error with
    | refused refusals =>
        rcases status_sent_iff.mp failed with unsendable | status
        · obtain ⟨refusal, member, untold⟩ := isSendable_refusal_eq_false_iff.mp unsendable
          exact .refused asked refused member untold
        · simp [refuse] at status
    | unreadable => simp [refuse] at failed
  next code language given =>
    split at failed
    next => exact absurd failed (status_analyzeCode standard _ _)
    next written named =>
      obtain ⟨rfl, -⟩ := Option.filter_eq_some_iff.mp written
      obtain ⟨rfl, present⟩ := Option.filter_eq_some_iff.mp named
      refine .unencodable asked ?_ given
      rintro rfl
      cases present
    next => simp at failed

theorem fails_of_status
    (failed : ((service.dispatch context request).2.sent context.refusalDepth).status = 500) :
    Fails service context request := by
  unfold dispatch at failed
  split at failed
  next => simp [notFound] at failed
  next => simp [ok, Reply.sent, Body.isSendable] at failed
  next => simp [ok, Reply.sent, Body.isSendable] at failed
  next route method => exact fails_of_analyze standard ⟨route, method⟩ failed
  next route method => exact fails_of_listHistory ⟨route, method⟩ failed
  next id route method => exact fails_of_getAnalysis ⟨route, method⟩ failed
  next =>
    unfold deleteAnalysis at failed
    dsimp only at failed
    split at failed
    next => simp [ok, Reply.sent, Body.isSendable] at failed
    next => simp [analysisNotFound] at failed
  next => simp [Reply.sent, Body.isSendable] at failed
  next => simp [Reply.sent, Body.isSendable] at failed
  next => simp [methodNotAllowed] at failed

end

theorem status_of_fails (fails : Fails service context request) :
    ((service.dispatch context request).2.sent context.refusalDepth).status = 500 := by
  cases fails with
  | @unencodable before number after language asked named given =>
      have told : ¬ Missing (some language) := by simp [Missing, named]
      simp only [dispatch, asked.1, asked.2]
      rw [analyze_of_broken given ⟨before, number, after, rfl⟩ told]
      rfl
  | refused asked refused member untold =>
      simp only [dispatch, asked.1, asked.2]
      rw [analyze, refused]
      exact status_sent_iff.mpr (.inl (isSendable_refusal_eq_false_iff.mpr ⟨_, member, untold⟩))
  | unlisted asked unable =>
      simp only [dispatch, asked.1, asked.2]
      rw [listHistory, unable]
      exact status_sent_detail _ _ _
  | unlistable asked member broken =>
      simp only [dispatch, asked.1, asked.2]
      rw [listHistory]
      split
      next =>
        refine status_sent_iff.mpr (.inl ?_)
        rw [isSendable_recent, List.all_eq_false]
        exact ⟨_, member, Bool.not_eq_true _ ▸ isPlain_eq_false_iff.mpr broken⟩
      next => exact status_sent_detail _ _ _
  | unshowable asked found broken =>
      simp only [dispatch, asked.1, asked.2]
      rw [getAnalysis, found]
      refine status_sent_iff.mpr (.inl ?_)
      rw [isSendable_getAnalysis]
      exact isPlain_eq_false_iff.mpr broken

end Service

/-- Every text in every language has a report. The service fails only for a code that cannot be
encoded and for an answer that cannot be written or found, and the command never tells of a failed
analysis. -/
theorem analysis_unfailing (code : String) (language : Text) :
    Grounded code.toList ∧ (∃ report, analyzeStandard code language = .ok report) ∧
      (∀ (service : Service) (context : Service.Context) (request : Service.Request),
        context.analyzer = analyzeStandard →
          ((service.handle context request).2.status = 500 ↔
            Service.Fails service context request)) ∧
      ∀ (context : Command.Context) (input : String), context.analyzer = analyzeStandard →
        Command.Completes (Command.run context input) := by
  refine ⟨grounded code.toList, exists_report code language, ?_, ?_⟩
  · intro service context request standard
    rw [Service.status_handle]
    exact ⟨Service.fails_of_status standard, Service.status_of_fails⟩
  · intro context input standard
    exact Command.completes_run standard input

/-- A call that goes on over a line break, and a request and an input that are answered. -/
theorem analysis_unfailing_of_split_call :
    let service : Service := ⟨9, ⟨1, []⟩⟩
    let context : Service.Context :=
      { analyzer := analyzeStandard, freshId := "1", now := "", limits := { depth := 9 },
        refusalDepth := 9 }
    let request : Service.Request := ⟨"GET", "/health", [], none⟩
    let command : Command.Context :=
      ⟨analyzeStandard, fun _ => none, fun _ => .error .notFound, { depth := 9 }⟩
    Script.consoleCall.occursIn "console.log\n(1)".toList = true ∧
      (∃ line number, Script.consoleLine? "console.log\n(1)".toList = some (line, number) ∧
        1 ≤ number ∧ mentions line "console.log" = true) ∧
      context.analyzer = analyzeStandard ∧ ¬ service.Fails context request ∧
      command.analyzer = analyzeStandard ∧ Command.Completes (Command.run command "[]") := by
  intro service context request command
  have logs : Script.consoleCall.occursIn "console.log\n(1)".toList = true := by decide +kernel
  obtain ⟨grounded, -, fails, completes⟩ := analysis_unfailing "console.log\n(1)" "javascript"
  refine ⟨logs, grounded.console logs, rfl, ?_, rfl, completes command "[]" rfl⟩
  rw [← fails service context request rfl]
  decide +kernel

/-- A code and a language that are texts, no part of the service fails, and still it has no
answer. -/
theorem internal_error_of_surrogate_in_code :
    let submission := Utf8.encode "\x7b\"code\":\"\\ud800\",\"language\":\"python\"\x7d".toList
    let context : Service.Context :=
      { analyzer := analyzeStandard, freshId := "1", now := "", limits := { depth := 9 },
        refusalDepth := 9 }
    let service : Service := ⟨1000000, ⟨500, []⟩⟩
    let request : Service.Request := ⟨"POST", "/analyze", submission, none⟩
    context.canSave = true ∧ context.canList = true ∧
      (service.handle context request).2.status = 500 := by
  decide +kernel

end LineLint
