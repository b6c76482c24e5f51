import LineLint.Proofs.Command.Files
import LineLint.Proofs.Json.OneLine

namespace LineLint.Command

open Json

/-- Lists and objects with something in them, which are no languages. -/
inductive Nested : Value → Prop
  | array {items : List Value} (some : items ≠ []) : Nested (.array items)
  | object {members : Members} (some : members ≠ []) : Nested (.object members)

theorem exists_languageTag_iff {value : Value} :
    (∃ tag, languageTag value = .ok tag) ↔ ¬ Nested value := by
  unfold languageTag
  split
  next present =>
    cases value with
    | null => cases present
    | array items =>
        have some : items ≠ [] := by simpa [Value.isPresent] using present
        exact iff_of_false (by simp [languageName?]) (not_not_intro (.array some))
    | object members =>
        have some : members ≠ [] := by simpa [Value.isPresent] using present
        exact iff_of_false (by simp [languageName?]) (not_not_intro (.object some))
    | bool set =>
        refine iff_of_true (by cases set <;> exact ⟨_, rfl⟩) ?_
        intro nested
        cases nested
    | _ =>
        refine iff_of_true ⟨_, rfl⟩ ?_
        intro nested
        cases nested
  next absent =>
    refine iff_of_true ⟨none, rfl⟩ ?_
    intro nested
    apply absurd _ absent
    cases nested with
    | array some => simpa [Value.isPresent] using some
    | object some => simpa [Value.isPresent] using some

theorem isSome_of_languageTag {value : Value} {tag : Option Tag}
    (tagged : languageTag value = .ok tag) : tag.isSome = value.isPresent := by
  unfold languageTag at tagged
  split at tagged
  next present =>
    split at tagged
    next =>
      cases tagged
      exact present.symm
    next => cases tagged
  next absent =>
    cases tagged
    exact (Bool.eq_false_iff.mpr absent).symm

def filesIn (request : Members) : List Value :=
  match Members.getD request "files" with
  | .array entries => entries
  | _ => []

/-- The fields of a request are of types that the command works with. -/
structure WellTyped (request : Members) : Prop where
  language : ¬ Nested (Members.getD request "language")
  files : ∀ entry ∈ filesIn request,
    TypedEntry (Members.getD request "language").isPresent entry
  code : filesIn request = [] → (Members.getD request "language").isPresent = true →
    (Members.getD request "code").isPresent = true →
      ∃ text : String, Members.getD request "code" = .text text

/-- What the command does with a request, given its language. -/
inductive Responds (context : Context) (limit : Int) (request : Members) (tag : Option Tag) :
    Outcome → Prop
  | files {results : List FileResult} {after : Streams} (listed : filesIn request ≠ [])
      (told : TellsAll context limit tag {} (filesIn request) results after)
      (remains : after.output = true) :
      Responds context limit request tag (filesOutcome tag results)
  | code {language : Tag} {text : String} (unlisted : filesIn request = [])
      (tagged : tag = some language) (held : Members.getD request "code" = .text text)
      (written : text ≠ "") :
      Responds context limit request tag (runCode context limit language text)
  | missing (unlisted : filesIn request = [])
      (missing : tag = none ∨ ¬ (Members.getD request "code").isPresent = true) :
      Responds context limit request tag missingInput

theorem filesIn_eq_nil {request : Members}
    (unlisted : ∀ first rest, Members.getD request "files" ≠ .array (first :: rest)) :
    filesIn request = [] := by
  unfold filesIn
  split
  next entries held =>
    cases entries with
    | nil => rfl
    | cons first rest => exact absurd held (unlisted first rest)
  next => rfl

def runSingle (context : Context) (limit : Int) (tag : Option Tag) (code : Value) :
    Except Crash Outcome :=
  match tag, code.isPresent with
  | some tag, true =>
      match code with
      | .text (.plain code) => return runCode context limit tag code
      | .text (.broken ..) => .error .loneSurrogate
      | _ => .error .notText
  | _, _ => return missingInput

section

variable {context : Context} {limit : Int} {request : Members} {tag : Option Tag}
    {outcome : Outcome}

theorem responds_iff_of_listed (listed : filesIn request ≠ []) :
    Responds context limit request tag outcome ↔
      runFiles context limit tag (filesIn request) = .ok outcome := by
  rw [runFiles_eq_ok_iff]
  constructor
  · intro responds
    cases responds with
    | files _ told remains => exact ⟨_, _, told, remains, rfl⟩
    | code unlisted => exact absurd unlisted listed
    | missing unlisted => exact absurd unlisted listed
  · rintro ⟨results, after, told, remains, rfl⟩
    exact .files listed told remains

theorem runSingle_eq_ok_iff (unlisted : filesIn request = []) :
    runSingle context limit tag (Members.getD request "code") = .ok outcome ↔
      Responds context limit request tag outcome := by
  constructor
  · intro ran
    unfold runSingle at ran
    split at ran
    next language present =>
      split at ran
      next text held =>
        cases ran
        refine .code unlisted rfl held ?_
        simpa [held, Value.isPresent, Text.isEmpty] using present
      next => cases ran
      next => cases ran
    next lacking =>
      cases ran
      refine .missing unlisted ?_
      by_cases present : (Members.getD request "code").isPresent = true
      · exact .inl (Option.eq_none_iff_forall_ne_some.mpr fun language tagged =>
          lacking language tagged present)
      · exact .inr present
  · intro responds
    cases responds with
    | files listed => exact absurd unlisted listed
    | code _ tagged held written =>
        unfold runSingle
        rw [tagged, held, isPresent_text fun empty => written (Text.plain.inj empty)]
        rfl
    | missing _ missing =>
        rcases missing with rfl | absent
        · rfl
        · unfold runSingle
          rw [Bool.eq_false_iff.mpr absent]
          cases tag <;> rfl

theorem runRequest_eq_ok_iff {settings : Settings}
    (configured : Settings.ofEnvironment context.environment = .ok settings) :
    runRequest context request = .ok outcome ↔
      ∃ tag, languageTag (Members.getD request "language") = .ok tag ∧
        Responds context settings.maxCodeBytes request tag outcome := by
  unfold runRequest
  rw [configured]
  change (languageTag _ >>= _) = _ ↔ _
  rw [bind_eq_ok_iff]
  refine exists_congr fun tag => and_congr_right' ?_
  split
  next first rest held =>
    have listed : filesIn request = first :: rest := by rw [filesIn, held]
    rw [responds_iff_of_listed (listed ▸ List.cons_ne_nil _ _), listed]
  next single => exact runSingle_eq_ok_iff (filesIn_eq_nil single)

theorem exists_responds_iff (standard : context.analyzer = analyzeStandard) :
    (∃ outcome, Responds context limit request tag outcome) ↔
      (∀ entry ∈ filesIn request, TypedEntry tag.isSome entry) ∧
        (filesIn request = [] → tag.isSome = true →
          (Members.getD request "code").isPresent = true →
            ∃ text : String, Members.getD request "code" = .text text) := by
  constructor
  · rintro ⟨outcome, responds⟩
    cases responds with
    | files listed told remains =>
        refine ⟨?_, fun unlisted => absurd unlisted listed⟩
        exact ((exists_tellsAll_iff standard).mp ⟨_, _, told, remains⟩).2
    | code unlisted _ held _ => exact ⟨by simp [unlisted], fun _ _ _ => ⟨_, held⟩⟩
    | missing unlisted missing =>
        refine ⟨by simp [unlisted], ?_⟩
        intro _ tagged present
        rcases missing with rfl | absent
        · cases tagged
        · exact absurd present absent
  · rintro ⟨files, code⟩
    by_cases unlisted : filesIn request = []
    · by_cases given : tag.isSome = true ∧ (Members.getD request "code").isPresent = true
      · obtain ⟨tagged, present⟩ := given
        obtain ⟨text, held⟩ := code unlisted tagged present
        obtain ⟨language, rfl⟩ := Option.isSome_iff_exists.mp tagged
        refine ⟨_, .code unlisted rfl held ?_⟩
        simpa [held, Value.isPresent, Text.isEmpty] using present
      · refine ⟨_, .missing unlisted ?_⟩
        rw [not_and_or] at given
        exact given.imp_left Option.not_isSome_iff_eq_none.mp
    · obtain ⟨results, after, told, remains⟩ :=
        (exists_tellsAll_iff standard).mpr ⟨(rfl : ({} : Streams).output = true), files⟩
      exact ⟨_, .files unlisted told remains⟩

theorem exists_runRequest_iff (standard : context.analyzer = analyzeStandard) {settings : Settings}
    (configured : Settings.ofEnvironment context.environment = .ok settings) :
    (∃ outcome, runRequest context request = .ok outcome) ↔ WellTyped request := by
  constructor
  · rintro ⟨outcome, ran⟩
    obtain ⟨tag, tagged, responds⟩ := (runRequest_eq_ok_iff configured).mp ran
    obtain ⟨files, code⟩ := (exists_responds_iff standard).mp ⟨outcome, responds⟩
    rw [isSome_of_languageTag tagged] at files code
    exact ⟨exists_languageTag_iff.mp ⟨tag, tagged⟩, files, code⟩
  · intro typed
    obtain ⟨tag, tagged⟩ := exists_languageTag_iff.mpr typed.language
    have files := typed.files
    have code := typed.code
    rw [← isSome_of_languageTag tagged] at files code
    obtain ⟨outcome, responds⟩ := (exists_responds_iff standard).mpr ⟨files, code⟩
    exact ⟨outcome, (runRequest_eq_ok_iff configured).mpr ⟨tag, tagged, responds⟩⟩

end

/-- An answer is an object on one line, which holds an error if and only if the command fails. -/
structure Presents (outcome : Outcome) : Prop where
  object : ∃ members, outcome.answer = .object members
  printed : outcome.output.toList = renderValue outcome.answer ++ ['\n']
  visible : OneLine (renderValue outcome.answer)
  unbroken : '\n' ∉ renderValue outcome.answer
  exitCode : outcome.exitCode = 0 ∨ outcome.exitCode = 1
  failed : outcome.exitCode = 1 ↔
    ∃ message : Text, outcome.answer.member? "error" = some (.text message)

theorem printed_output (outcome : Outcome) :
    outcome.output.toList = renderValue outcome.answer ++ ['\n'] := by
  rw [Outcome.output, String.toList_append, Value.render, String.toList_ofList]
  rfl

theorem presents_object {succeeded : Bool} {members : Members}
    (failed : succeeded = false ↔ ∃ message, Members.get? members "error" = some (.text message)) :
    Presents ⟨succeeded, .object members⟩ where
  object := ⟨members, rfl⟩
  printed := printed_output _
  visible := oneLine_renderValue _
  unbroken := (oneLine_renderValue _).lineFeed_not_mem
  exitCode := by
    cases succeeded with
    | true => exact .inl rfl
    | false => exact .inr rfl
  failed := by
    refine Iff.trans ?_ failed
    cases succeeded <;> simp [Outcome.exitCode]

theorem presents_failure (message : String) (more : Members) : Presents (failure message more) :=
  presents_object (iff_of_true rfl ⟨message, rfl⟩)

theorem presents_success {members : Members} (sound : Members.get? members "error" = none) :
    Presents (success members) := by
  apply presents_object
  simp [sound]

theorem get?_warningMembers (tag : Option Tag) :
    Members.get? (warningMembers tag) "error" = none := by
  unfold warningMembers
  split <;> rfl

theorem Responds.presents {context : Context} {limit : Int} {request : Members} {tag : Option Tag}
    {outcome : Outcome} (responds : Responds context limit request tag outcome) :
    Presents outcome := by
  cases responds with
  | files => exact presents_success (get?_warningMembers tag)
  | @code language text =>
      unfold runCode
      split
      next => exact presents_failure _ _
      next =>
        split
        next => exact presents_success (get?_warningMembers (some language))
        next => exact presents_failure _ _
  | missing => exact presents_failure _ _

/-- The inputs that have an answer, as they are read: what is no object has one, and an object if
its fields are of the right types. -/
inductive Answerable : Except Failure Value → Prop
  | malformed (error : SyntaxError) : Answerable (.error (.malformed error))
  | other {value : Value} (other : ∀ request, value ≠ .object request) : Answerable (.ok value)
  | typed {request : Members} (typed : WellTyped request) : Answerable (.ok (.object request))

section

variable {context : Context} (standard : context.analyzer = analyzeStandard)
  (configured : ∃ settings, Settings.ofEnvironment context.environment = .ok settings)

theorem run_of_object {input : String} {request : Members}
    (parsed : parseUnmarked context.limits (codePoints input.toList) = .ok (.object request)) :
    run context input = runRequest context request := by
  rw [run, parsed]

theorem exists_failure_of_not_object {input : String} {outcome : Outcome}
    (ran : run context input = .ok outcome)
    (other : ∀ request,
      parseUnmarked context.limits (codePoints input.toList) ≠ .ok (.object request)) :
    ∃ message, outcome = failure message [] := by
  unfold run at ran
  split at ran
  next request parsed => exact absurd parsed (other request)
  next =>
    cases ran
    exact ⟨_, rfl⟩
  next =>
    cases ran
    exact ⟨_, rfl⟩
  next => cases ran
  next => cases ran

include configured

theorem presents_of_run {input : String} {outcome : Outcome}
    (ran : run context input = .ok outcome) : Presents outcome := by
  obtain ⟨settings, configured⟩ := configured
  by_cases object : ∃ request,
      parseUnmarked context.limits (codePoints input.toList) = .ok (.object request)
  · obtain ⟨request, parsed⟩ := object
    rw [run_of_object parsed] at ran
    obtain ⟨tag, tagged, responds⟩ := (runRequest_eq_ok_iff configured).mp ran
    exact responds.presents
  · obtain ⟨message, rfl⟩ := exists_failure_of_not_object ran (not_exists.mp object)
    exact presents_failure message []

include standard

theorem exists_run_iff {input : String} :
    (∃ outcome, run context input = .ok outcome) ↔
      Answerable (parseUnmarked context.limits (codePoints input.toList)) := by
  obtain ⟨settings, configured⟩ := configured
  cases parsed : parseUnmarked context.limits (codePoints input.toList) with
  | error error =>
      rw [run, parsed]
      cases error with
      | malformed error => exact iff_of_true ⟨_, rfl⟩ (.malformed error)
      | tooDeep | tooLong =>
          refine iff_of_false (by simp) ?_
          intro answerable
          cases answerable
  | ok value =>
      cases value with
      | object request =>
          rw [run_of_object parsed, exists_runRequest_iff standard configured]
          constructor
          · exact .typed
          · intro answerable
            cases answerable with
            | other other => exact absurd rfl (other request)
            | typed typed => exact typed
      | _ =>
          rw [run, parsed]
          exact iff_of_true ⟨_, rfl⟩ (.other (by simp))

/-- The command answers the inputs that are answerable and no others, each with an object on one
line; where the input is no object, this one holds an error. -/
theorem answers_iff_answerable (input : String) :
    ((∃ outcome, run context input = .ok outcome) ↔
      Answerable (parseUnmarked context.limits (codePoints input.toList))) ∧
      ∀ outcome, run context input = .ok outcome → Presents outcome ∧
        ((∀ request,
            parseUnmarked context.limits (codePoints input.toList) ≠ .ok (.object request)) →
          outcome.exitCode = 1) := by
  refine ⟨exists_run_iff standard configured, ?_⟩
  intro outcome ran
  refine ⟨presents_of_run configured ran, ?_⟩
  intro other
  obtain ⟨message, rfl⟩ := exists_failure_of_not_object ran other
  rfl

end

/-- A list is no request, and is told to be none. -/
theorem answers_iff_answerable_of_list :
    let context : Context :=
      ⟨analyzeStandard, fun _ => none, fun _ => .error .notFound, { depth := 9 }⟩
    context.analyzer = analyzeStandard ∧ Settings.ofEnvironment context.environment = .ok {} ∧
      ∃ outcome, run context "[]" = .ok outcome ∧ Presents outcome ∧ outcome.exitCode = 1 := by
  intro context
  have configured : Settings.ofEnvironment context.environment = .ok {} := by decide +kernel
  have parsed : parseUnmarked context.limits (codePoints "[]".toList) = .ok (.array []) := by
    decide +kernel
  obtain ⟨answered, presents⟩ := @answers_iff_answerable context rfl ⟨_, configured⟩ "[]"
  obtain ⟨outcome, ran⟩ := answered.mpr (by rw [parsed]; exact .other (by simp))
  obtain ⟨presented, failed⟩ := presents outcome ran
  have other : ∀ request,
      parseUnmarked context.limits (codePoints "[]".toList) ≠ .ok (.object request) := by
    intro request
    rw [parsed]
    simp
  exact ⟨rfl, configured, outcome, ran, presented, failed other⟩

/-- Fields of other types for which there is no answer: a code and a name that are no texts, a
language that is a list, and files that are a truth value and the output. -/
theorem unanswered_of_other_types :
    let context : Context :=
      ⟨analyzeStandard, fun _ => none, fun _ => .error .notFound, { depth := 9 }⟩
    Settings.ofEnvironment context.environment = .ok {} ∧
      run context "\x7b\"code\": true, \"language\": \"python\"\x7d" = .error .notText ∧
      run context "\x7b\"language\": [\"python\"]\x7d" = .error .unusableLanguage ∧
      run context "\x7b\"files\": [true]\x7d" = .error .notARecord ∧
      run context "\x7b\"files\": [\x7b\"original_name\": true\x7d]\x7d" = .error .notText ∧
      run context ("\x7b\"language\": \"b\", " ++
        "\"files\": [\x7b\"path\": true, \"original_name\": \"a\"\x7d]\x7d") =
          .error .outputClosed := by
  decide +kernel

end LineLint.Command
