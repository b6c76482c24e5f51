import LineLint.Command
import LineLint.Proofs.Analysis
import LineLint.Proofs.Json.Equality

namespace LineLint.Command

open Json

deriving instance DecidableEq for Outcome

@[simp] theorem failure_eq_failure_iff {message other : String} {more others : Members} :
    failure message more = failure other others ↔ message = other ∧ more = others := by
  simp [failure]

@[simp] theorem success_ne_failure (members : Members) (message : String) (more : Members) :
    success members ≠ failure message more := by
  simp [success, failure]

@[simp] theorem exitCode_success (members : Members) : (success members).exitCode = 0 := rfl

@[simp] theorem exitCode_failure (message : String) (more : Members) :
    (failure message more).exitCode = 1 := rfl

def analysisFailed (message : String) : String := "Analysis failed: " ++ message

theorem analysisFailed_inj {message other : String} :
    analysisFailed message = analysisFailed other ↔ message = other := by
  unfold analysisFailed
  exact String.append_right_inj _

theorem ne_analysisFailed {text : String} (first : text.toList.head? ≠ some 'A')
    (message : String) : text ≠ analysisFailed message := by
  rintro rfl
  apply first
  unfold analysisFailed
  simp

theorem codeTooLarge_ne_analysisFailed (limit : Int) (message : String) :
    codeTooLarge limit ≠ analysisFailed message := by
  apply ne_analysisFailed
  unfold codeTooLarge
  simp

/-- Only a fault of the analyzer makes the command say that an analysis has failed. -/
theorem runCode_eq_failed_iff {context : Context} {limit : Int} {tag : Tag} {code message : String}
    {more : Members} :
    runCode context limit tag code = failure (analysisFailed message) more ↔
      exceeds code limit = false ∧
        ∃ fault, context.analyzer code tag.name = .error fault ∧ fault.message = message ∧
          [] = more := by
  unfold runCode
  split
  next large =>
    simp [codeTooLarge_ne_analysisFailed, large]
  next small =>
    cases analyzed : context.analyzer code tag.name with
    | ok report => simp
    | error fault =>
        change failure (analysisFailed fault.message) [] = _ ↔ _
        simp [small, analysisFailed_inj]

/-- No analysis has crashed on the way to this result. -/
def FaultFree {α : Type} (result : Except Crash α) : Prop :=
  ∀ fault, result ≠ .error (.analysis fault)

section

variable {α β : Type}

@[simp] theorem faultFree_ok (value : α) : FaultFree (.ok value) := by
  intro fault crashed
  cases crashed

@[simp] theorem faultFree_error {crash : Crash} :
    FaultFree (.error crash : Except Crash α) ↔ ∀ fault, crash ≠ .analysis fault := by
  simp [FaultFree]

theorem FaultFree.bind {result : Except Crash α} {rest : α → Except Crash β}
    (first : FaultFree result) (later : ∀ value, FaultFree (rest value)) :
    FaultFree (result >>= rest) := by
  cases result with
  | ok value => exact later value
  | error crash => exact faultFree_error.mpr (faultFree_error.mp first)

end

structure Completes (result : Except Crash Outcome) : Prop where
  faultFree : FaultFree result
  answered : ∀ message more, result ≠ .ok (failure (analysisFailed message) more)

theorem completes_success (members : Members) : Completes (.ok (success members)) where
  faultFree := faultFree_ok _
  answered := fun message more => by simp

theorem completes_failure {text : String} (first : text.toList.head? ≠ some 'A')
    (members : Members) : Completes (.ok (failure text members)) where
  faultFree := faultFree_ok _
  answered := fun message more => by simp [ne_analysisFailed first message]

theorem completes_error {crash : Crash} (spared : ∀ fault, crash ≠ .analysis fault) :
    Completes (.error crash) where
  faultFree := faultFree_error.mpr spared
  answered := fun message more => by simp

theorem FaultFree.completes_bind {α : Type} {result : Except Crash α}
    {rest : α → Except Crash Outcome} (first : FaultFree result)
    (later : ∀ value, Completes (rest value)) : Completes (result >>= rest) := by
  cases result with
  | ok value => exact later value
  | error crash => exact completes_error (faultFree_error.mp first)

theorem faultFree_languageTag (value : Value) : FaultFree (languageTag value) := by
  unfold languageTag
  split
  next => split <;> simp
  next => simp

theorem faultFree_fileName (given path : Value) : FaultFree (fileName given path) := by
  unfold fileName
  split
  next => simp
  next => split <;> simp

theorem faultFree_fileTag (requested : Option Tag) (name : Value) :
    FaultFree (fileTag requested name) := by
  unfold fileTag
  split <;> simp

theorem faultFree_ofInteger (n : Int) : FaultFree (FileSource.ofInteger n) := by
  unfold FileSource.ofInteger
  split
  next => simp
  next => split <;> simp

theorem faultFree_ofText (path : Text) : FaultFree (FileSource.ofText path) := by
  unfold FileSource.ofText
  split
  next => split <;> simp
  next => simp

theorem faultFree_ofValue (value : Value) : FaultFree (FileSource.ofValue value) := by
  unfold FileSource.ofValue
  split
  next => exact faultFree_ofText _
  next => exact faultFree_ofInteger _
  next => simp
  next => simp
  next => simp

variable {context : Context} (standard : context.analyzer = analyzeStandard)

include standard

theorem completes_runCode (limit : Int) (tag : Tag) (code : String) :
    Completes (.ok (runCode context limit tag code)) where
  faultFree := faultFree_ok _
  answered := fun message more failed => by
    obtain ⟨-, fault, faulty, -⟩ := runCode_eq_failed_iff.mp (Except.ok.inj failed)
    obtain ⟨report, analyzed⟩ := exists_report code tag.name
    rw [standard, analyzed] at faulty
    cases faulty

theorem faultFree_analyzeFile (limit : Int) (tag : Tag) (code : String) :
    FaultFree (analyzeFile context limit tag code) := by
  obtain ⟨report, analyzed⟩ := exists_report code tag.name
  rw [← standard] at analyzed
  unfold analyzeFile
  split
  next => simp
  next => simp [analyzed]

theorem faultFree_runFile (limit : Int) (requested : Option Tag) (streams : Streams)
    (entry : Value) : FaultFree (runFile context limit requested streams entry) := by
  unfold runFile
  split
  next members =>
    refine (faultFree_fileName _ _).bind fun name => (faultFree_fileTag _ name).bind fun tag => ?_
    cases tag with
    | none => exact faultFree_ok _
    | some tag =>
        refine (faultFree_ofValue _).bind fun source => ?_
        split
        next bytes _ _ =>
          exact (faultFree_analyzeFile standard limit tag _).bind fun outcome => faultFree_ok _
        next => exact faultFree_ok _
  next => simp

theorem faultFree_runEntries (limit : Int) (requested : Option Tag) (streams : Streams)
    (entries : List Value) : FaultFree (runEntries context limit requested streams entries) := by
  induction entries generalizing streams with
  | nil => exact faultFree_ok _
  | cons entry rest induction =>
      exact (faultFree_runFile standard limit requested streams entry).bind fun told =>
        (induction told.2).bind fun later => faultFree_ok _

theorem completes_runFiles (limit : Int) (requested : Option Tag) (entries : List Value) :
    Completes (runFiles context limit requested entries) := by
  refine (faultFree_runEntries standard limit requested {} entries).completes_bind fun told => ?_
  dsimp only
  split
  next => exact completes_success _
  next => exact completes_error (by simp)

theorem completes_runRequest (request : Members) : Completes (runRequest context request) := by
  have configured : FaultFree
      ((Settings.ofEnvironment context.environment).mapError Crash.settings) := by
    cases Settings.ofEnvironment context.environment <;> simp [Except.mapError]
  refine configured.completes_bind fun settings =>
    (faultFree_languageTag _).completes_bind fun tag => ?_
  split
  next => exact completes_runFiles standard _ _ _
  next =>
    dsimp only
    split
    next =>
      split
      next => exact completes_runCode standard _ _ _
      next => exact completes_error (by simp)
      next => exact completes_error (by simp)
    next => exact completes_failure (by simp) _

theorem completes_run (input : String) : Completes (run context input) := by
  unfold run
  split
  next request _ => exact completes_runRequest standard request
  next => exact completes_failure (by simp) _
  next => exact completes_failure (by simp) _
  next => exact completes_error (by simp)
  next => exact completes_error (by simp)

end LineLint.Command
