import LineLint.Proofs.Command.Agreement
import LineLint.Proofs.Text.CodePoint

namespace LineLint

open Json

theorem summary_eq_of_analyze {registry : Registry} {code : String} {language : Text}
    {report : Report}
    (analyzed : analyze registry code language = .ok report) :
    report.summary = Summary.ofBugs report.bugs := by
  unfold analyze at analyzed
  split at analyzed
  next ruleSet _ =>
    cases found : ruleSet code with
    | error fault =>
        rw [found] at analyzed
        cases analyzed
    | ok bugs =>
        rw [found] at analyzed
        cases analyzed
        rfl
  next =>
    cases analyzed
    rfl

theorem bind_eq_ok_iff {ε α β : Type} {first : Except ε α} {later : α → Except ε β} {value : β} :
    first >>= later = .ok value ↔ ∃ middle, first = .ok middle ∧ later middle = .ok value := by
  cases first with
  | ok middle =>
      constructor
      · intro reached
        exact ⟨middle, rfl, reached⟩
      · rintro ⟨other, same, reached⟩
        cases same
        exact reached
  | error error =>
      constructor
      · intro reached
        cases reached
      · rintro ⟨other, same, -⟩
        cases same

namespace Command

/-- The path in an entry; the empty path if it holds none. -/
def pathIn (members : Members) : Value := (Members.get? members "path").getD (.text "")

def undetected : String := "Could not detect language from file extension"

/-- What a run says of an entry of its files, with the streams that are open before and after. -/
inductive Tells (context : Context) (limit : Int) (requested : Option Tag) (before : Streams) :
    Value → FileResult → Streams → Prop
  | undetected {members : Members} {name : Value}
      (named : fileName (Members.getD members "original_name") (pathIn members) = .ok name)
      (untagged : fileTag requested name = .ok none) :
      Tells context limit requested before (.object members) ⟨name, .error undetected⟩ before
  | unread {members : Members} {name : Value} {tag : Tag} {source : FileSource} {error : ReadError}
      {after : Streams}
      (named : fileName (Members.getD members "original_name") (pathIn members) = .ok name)
      (tagged : fileTag requested name = .ok (some tag))
      (located : FileSource.ofValue (pathIn members) = .ok source)
      (failed : source.read context.reader before = (.error error, after)) :
      Tells context limit requested before (.object members)
        ⟨name, .error (error.message source.shown)⟩ after
  | read {members : Members} {name : Value} {tag : Tag} {source : FileSource} {bytes : List UInt8}
      {outcome : Except Text (Value × Report)} {after : Streams}
      (named : fileName (Members.getD members "original_name") (pathIn members) = .ok name)
      (tagged : fileTag requested name = .ok (some tag))
      (located : FileSource.ofValue (pathIn members) = .ok source)
      (opened : source.read context.reader before = (.ok bytes, after))
      (analyzed : analyzeFile context limit tag (fileText bytes) = .ok outcome) :
      Tells context limit requested before (.object members) ⟨name, outcome⟩ after

section

variable {context : Context} {limit : Int} {requested : Option Tag} {before after : Streams}
  {entry : Value} {result : FileResult}

theorem runFile_eq_ok_iff :
    runFile context limit requested before entry = .ok (result, after) ↔
      Tells context limit requested before entry result after := by
  constructor
  · intro ran
    cases entry with
    | object members =>
        obtain ⟨name, named, ran⟩ := bind_eq_ok_iff.mp ran
        obtain ⟨tag, tagged, ran⟩ := bind_eq_ok_iff.mp ran
        cases tag with
        | none =>
            cases ran
            exact .undetected named tagged
        | some tag =>
            obtain ⟨source, located, ran⟩ := bind_eq_ok_iff.mp ran
            split at ran
            next bytes left opened =>
              obtain ⟨outcome, analyzed, ran⟩ := bind_eq_ok_iff.mp ran
              cases ran
              exact .read named tagged located opened analyzed
            next error left failed =>
              cases ran
              exact .unread named tagged located failed
    | _ => cases ran
  · intro told
    cases told with
    | undetected named untagged =>
        exact bind_eq_ok_iff.mpr ⟨_, named, bind_eq_ok_iff.mpr ⟨_, untagged, rfl⟩⟩
    | unread named tagged located failed =>
        refine bind_eq_ok_iff.mpr ⟨_, named, bind_eq_ok_iff.mpr ⟨_, tagged, ?_⟩⟩
        refine bind_eq_ok_iff.mpr ⟨_, located, ?_⟩
        rw [failed]
        rfl
    | read named tagged located opened analyzed =>
        refine bind_eq_ok_iff.mpr ⟨_, named, bind_eq_ok_iff.mpr ⟨_, tagged, ?_⟩⟩
        refine bind_eq_ok_iff.mpr ⟨_, located, ?_⟩
        rw [opened]
        exact bind_eq_ok_iff.mpr ⟨_, analyzed, rfl⟩

end

/-- What an answer on one file adds to the summary of them all. -/
inductive Counts (answer : Value) : Summary → Prop
  | analyzed {record : Value} {summary : Summary} (held : answer.member? "summary" = some record)
      (tallied : Tallies record summary) (sound : answer.member? "error" = none) :
      Counts answer summary
  | failed {message : Text} (told : answer.member? "error" = some (.text message))
      (none : answer.member? "summary" = none) : Counts answer ⟨0, 0, 0⟩

section

variable {context : Context} {limit : Int} {requested : Option Tag} {before after : Streams}
  {entry : Value} {result : FileResult}

theorem summary_eq_of_analyzeFile (standard : context.analyzer = analyzeStandard) {tag : Tag}
    {code : String} {language : Value} {report : Report}
    (analyzed : analyzeFile context limit tag code = .ok (.ok (language, report))) :
    report.summary = Summary.ofBugs report.bugs := by
  unfold analyzeFile at analyzed
  split at analyzed
  next => cases analyzed
  next =>
    split at analyzed
    next found =>
      cases analyzed
      rw [standard] at found
      exact summary_eq_of_analyze found
    next => cases analyzed

theorem Tells.counts (standard : context.analyzer = analyzeStandard)
    (told : Tells context limit requested before entry result after) :
    Counts result.toJson (Summary.ofBugs result.bugs) := by
  cases told with
  | undetected named untagged => exact .failed rfl rfl
  | unread named tagged located failed => exact .failed rfl rfl
  | @read members name tag source bytes outcome left named tagged located opened analyzed =>
      cases outcome with
      | error message => exact .failed rfl rfl
      | ok found =>
          obtain ⟨language, report⟩ := found
          change Counts _ (Summary.ofBugs report.bugs)
          rw [← summary_eq_of_analyzeFile standard analyzed]
          exact .analyzed rfl report.summary.tallies_toJson rfl

theorem exists_analyzeFile (standard : context.analyzer = analyzeStandard) (limit : Int) (tag : Tag)
    (code : String) : ∃ outcome, analyzeFile context limit tag code = .ok outcome := by
  obtain ⟨report, analyzed⟩ := exists_report code tag.name
  rw [← standard] at analyzed
  unfold analyzeFile
  split
  next => exact ⟨_, rfl⟩
  next =>
    rw [analyzed]
    exact ⟨_, rfl⟩

end

/-- What a file may be opened by: a path that has bytes without zeros among them, or the number of
an open file. Number one is the output, which reading it would close. -/
inductive Openable : Value → Prop
  | path {path : Text} (nameable : path.Nameable) : Openable (.text path)
  | descriptor {n : Int} (least : 0 ≤ n) (greatest : n < 0x80000000) (other : n ≠ 1) :
      Openable (.integer n)
  | zero : Openable (.bool false)

/-- To read a file of this kind does not close the output. -/
def FileSource.SparesOutput : FileSource → Prop
  | path _ _ => True
  | descriptor _ number => number ≠ 1

theorem output_read (reader : FileReader) (streams : Streams) (source : FileSource) :
    (source.read reader streams).2.output = true ↔
      streams.output = true ∧ source.SparesOutput := by
  cases source with
  | path shown name => simp [FileSource.read, FileSource.SparesOutput]
  | descriptor shown number =>
      rcases number with _ | _ | number <;>
        simp [FileSource.read, FileSource.SparesOutput]

theorem exists_ofText_iff {path : Text} :
    (∃ source, FileSource.ofText path = .ok source ∧ source.SparesOutput) ↔ path.Nameable := by
  rw [Text.nameable_iff]
  constructor
  · rintro ⟨source, located, -⟩
    unfold FileSource.ofText at located
    split at located
    next name encoded =>
      split at located
      next => cases located
      next clean => exact ⟨name, encoded, by simpa using clean⟩
    next => cases located
  · rintro ⟨name, encoded, clean⟩
    refine ⟨.path path name, ?_, trivial⟩
    simp only [FileSource.ofText, encoded]
    exact if_neg (by simpa using clean)

theorem exists_ofInteger_iff {n : Int} :
    (∃ source, FileSource.ofInteger n = .ok source ∧ source.SparesOutput) ↔
      0 ≤ n ∧ n < 0x80000000 ∧ n ≠ 1 := by
  unfold FileSource.ofInteger
  split
  next outside =>
    simp only [Bool.or_eq_true, decide_eq_true_eq] at outside
    exact iff_of_false (by simp) (by omega)
  next inside =>
    simp only [Bool.or_eq_true, decide_eq_true_eq] at inside
    split
    next => exact iff_of_false (by simp) (by omega)
    next =>
      constructor
      · rintro ⟨source, located, spared⟩
        cases located
        have other : n.toNat ≠ 1 := spared
        omega
      · rintro ⟨least, greatest, other⟩
        have spared : n.toNat ≠ 1 := by omega
        exact ⟨_, rfl, spared⟩

theorem exists_ofValue_iff {value : Value} :
    (∃ source, FileSource.ofValue value = .ok source ∧ source.SparesOutput) ↔ Openable value := by
  constructor
  · rintro ⟨source, located, spared⟩
    cases value with
    | text path => exact .path (exists_ofText_iff.mp ⟨source, located, spared⟩)
    | integer n =>
        obtain ⟨least, greatest, other⟩ := exists_ofInteger_iff.mp ⟨source, located, spared⟩
        exact .descriptor least greatest other
    | bool set =>
        cases set with
        | false => exact .zero
        | true =>
            cases located
            exact absurd rfl spared
    | _ => cases located
  · intro openable
    cases openable with
    | path nameable => exact exists_ofText_iff.mpr nameable
    | descriptor least greatest other => exact exists_ofInteger_iff.mpr ⟨least, greatest, other⟩
    | zero => exact ⟨_, rfl, Nat.zero_ne_one⟩

/-- The name of a file: the one given with it, of whatever type, or the end of its path. -/
inductive Named (members : Members) : Value → Prop
  | given (present : (Members.getD members "original_name").isPresent = true) :
      Named members (Members.getD members "original_name")
  | ofPath {path : Text} (absent : ¬ (Members.getD members "original_name").isPresent = true)
      (held : pathIn members = .text path) : Named members (.text (Path.name path))

theorem fileName_eq_ok_iff {members : Members} {name : Value} :
    fileName (Members.getD members "original_name") (pathIn members) = .ok name ↔
      Named members name := by
  constructor
  · intro named
    unfold fileName at named
    split at named
    next present =>
      cases named
      exact .given present
    next absent =>
      split at named
      next path held =>
        cases named
        exact .ofPath absent held
      next => cases named
  · intro named
    cases named with
    | given present => exact if_pos present
    | ofPath absent held =>
        rw [held, fileName, if_neg absent]

/-- The language of a file is known: one is given, or its name tells one. -/
def Known (hasLanguage : Bool) (name : Value) : Prop :=
  hasLanguage = true ∨ ∃ text, name = .text text ∧
    (Language.ofFileName? (String.ofList text.characters)).isSome = true

theorem exists_fileTag_iff {requested : Option Tag} {name : Value} :
    (∃ tag, fileTag requested name = .ok (some tag)) ↔ Known requested.isSome name := by
  cases requested with
  | some tag => exact iff_of_true ⟨tag, rfl⟩ (.inl rfl)
  | none =>
      cases name with
      | text text => simp [fileTag, Known, Option.isSome_iff_exists]
      | _ => simp [fileTag, Known]

theorem fileTag_eq_none_iff {requested : Option Tag} {name : Value} :
    fileTag requested name = .ok none ↔
      requested.isSome = false ∧ ∃ text, name = .text text ∧
        Language.ofFileName? (String.ofList text.characters) = none := by
  cases requested with
  | some tag => simp [fileTag]
  | none => cases name <;> simp [fileTag]

/-- The entries of which a run says something and goes on. A name that is no text will do if a
language is given, and a path that cannot be opened if none is known. -/
inductive TypedEntry (hasLanguage : Bool) : Value → Prop
  | undetected {members : Members} {name : Text} (named : Named members (.text name))
      (untagged : hasLanguage = false)
      (unknown : Language.ofFileName? (String.ofList name.characters) = none) :
      TypedEntry hasLanguage (.object members)
  | opened {members : Members} {name : Value} (named : Named members name)
      (known : Known hasLanguage name) (openable : Openable (pathIn members)) :
      TypedEntry hasLanguage (.object members)

theorem exists_tells_iff {context : Context} (standard : context.analyzer = analyzeStandard)
    {limit : Int} {requested : Option Tag} {before : Streams} {entry : Value} :
    (∃ result after, Tells context limit requested before entry result after ∧
      after.output = true) ↔ before.output = true ∧ TypedEntry requested.isSome entry := by
  constructor
  · rintro ⟨result, after, told, remains⟩
    cases told with
    | undetected named untagged =>
        obtain ⟨unrequested, name, rfl, unknown⟩ := fileTag_eq_none_iff.mp untagged
        exact ⟨remains, .undetected (fileName_eq_ok_iff.mp named) unrequested unknown⟩
    | @unread members name tag source error _ named tagged located failed =>
        have kept := (output_read context.reader before source).mp (failed ▸ remains)
        exact ⟨kept.1, .opened (fileName_eq_ok_iff.mp named) (exists_fileTag_iff.mp ⟨_, tagged⟩)
          (exists_ofValue_iff.mp ⟨_, located, kept.2⟩)⟩
    | @read members name tag source bytes outcome _ named tagged located opened analyzed =>
        have kept := (output_read context.reader before source).mp (opened ▸ remains)
        exact ⟨kept.1, .opened (fileName_eq_ok_iff.mp named) (exists_fileTag_iff.mp ⟨_, tagged⟩)
          (exists_ofValue_iff.mp ⟨_, located, kept.2⟩)⟩
  · rintro ⟨output, typed⟩
    cases typed with
    | undetected named untagged unknown =>
        exact ⟨_, before, .undetected (fileName_eq_ok_iff.mpr named)
          (fileTag_eq_none_iff.mpr ⟨untagged, _, rfl, unknown⟩), output⟩
    | opened named known openable =>
        obtain ⟨tag, tagged⟩ := exists_fileTag_iff.mpr known
        obtain ⟨source, located, spared⟩ := exists_ofValue_iff.mpr openable
        have named := fileName_eq_ok_iff.mpr named
        have remains := (output_read context.reader before source).mpr ⟨output, spared⟩
        rcases opened : source.read context.reader before with ⟨error | bytes, after⟩
        · rw [opened] at remains
          exact ⟨_, after, .unread named tagged located opened, remains⟩
        · rw [opened] at remains
          obtain ⟨outcome, analyzed⟩ := exists_analyzeFile standard limit tag (fileText bytes)
          exact ⟨_, after, .read named tagged located opened analyzed, remains⟩

end Command

end LineLint
