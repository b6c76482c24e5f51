import LineLint.Proofs.Command.OneFile
import Mathlib.Algebra.Ring.Nat
import Mathlib.Data.List.Forall2

namespace LineLint

open Json

namespace Summary

def sum (summaries : List Summary) : Summary where
  critical := (summaries.map (·.critical)).sum
  warning := (summaries.map (·.warning)).sum
  info := (summaries.map (·.info)).sum

@[simp] theorem sum_nil : sum [] = {} := rfl

@[simp] theorem sum_cons (first : Summary) (rest : List Summary) :
    sum (first :: rest) = first + sum rest := by
  simp only [sum, List.map_cons, List.sum_cons]
  rfl

theorem ofBugs_flatMap {α : Type} (items : List α) (bugs : α → List Bug) :
    ofBugs (items.flatMap bugs) = sum (items.map fun item => ofBugs (bugs item)) := by
  induction items with
  | nil => rfl
  | cons item rest induction =>
      rw [List.flatMap_cons, ofBugs_append, induction, List.map_cons, sum_cons]

end Summary

theorem forall_mem_of_forall₂ {α β : Type} {related : α → β → Prop} {holds : β → Prop}
    (each : ∀ item result, related item result → holds result) {items : List α} {results : List β}
    (matched : List.Forall₂ related items results) : ∀ result ∈ results, holds result := by
  induction matched with
  | nil => exact List.forall_mem_nil _
  | cons first later induction =>
      exact List.forall_mem_cons.mpr ⟨each _ _ first, induction⟩

namespace Command

/-- What a run says of its entries, one after the other. -/
inductive TellsAll (context : Context) (limit : Int) (requested : Option Tag) :
    Streams → List Value → List FileResult → Streams → Prop
  | nil (streams : Streams) : TellsAll context limit requested streams [] [] streams
  | cons {before between after : Streams} {entry : Value} {rest : List Value}
      {result : FileResult} {results : List FileResult}
      (first : Tells context limit requested before entry result between)
      (later : TellsAll context limit requested between rest results after) :
      TellsAll context limit requested before (entry :: rest) (result :: results) after

section

variable {context : Context} {limit : Int} {requested : Option Tag} {before after : Streams}
  {entries : List Value} {results : List FileResult} {outcome : Outcome}

theorem runEntries_eq_ok_iff :
    runEntries context limit requested before entries = .ok (results, after) ↔
      TellsAll context limit requested before entries results after := by
  induction entries generalizing before results with
  | nil =>
      constructor
      · intro ran
        cases ran
        exact .nil _
      · intro told
        cases told
        rfl
  | cons entry rest induction =>
      rw [runEntries, bind_eq_ok_iff]
      constructor
      · rintro ⟨⟨result, between⟩, first, joined⟩
        obtain ⟨⟨others, last⟩, later, ended⟩ := bind_eq_ok_iff.mp joined
        cases ended
        exact .cons (runFile_eq_ok_iff.mp first) (induction.mp later)
      · intro told
        cases told with
        | cons first later =>
            exact ⟨_, runFile_eq_ok_iff.mpr first,
              bind_eq_ok_iff.mpr ⟨_, induction.mpr later, rfl⟩⟩

theorem runFiles_eq_ok_iff :
    runFiles context limit requested entries = .ok outcome ↔
      ∃ results after, TellsAll context limit requested {} entries results after ∧
        after.output = true ∧ filesOutcome requested results = outcome := by
  rw [runFiles, bind_eq_ok_iff]
  constructor
  · rintro ⟨⟨results, after⟩, ran, ended⟩
    dsimp only at ended
    split at ended
    next remains =>
      cases ended
      exact ⟨results, after, runEntries_eq_ok_iff.mp ran, remains, rfl⟩
    next => cases ended
  · rintro ⟨results, after, told, remains, rfl⟩
    exact ⟨_, runEntries_eq_ok_iff.mpr told, if_pos remains⟩

theorem exists_tellsAll_iff (standard : context.analyzer = analyzeStandard) :
    (∃ results after, TellsAll context limit requested before entries results after ∧
      after.output = true) ↔
        before.output = true ∧ ∀ entry ∈ entries, TypedEntry requested.isSome entry := by
  induction entries generalizing before with
  | nil =>
      constructor
      · rintro ⟨results, after, told, remains⟩
        cases told
        exact ⟨remains, by simp⟩
      · rintro ⟨output, -⟩
        exact ⟨[], before, .nil before, output⟩
  | cons entry rest induction =>
      rw [List.forall_mem_cons]
      constructor
      · rintro ⟨results, after, told, remains⟩
        cases told with
        | cons first later =>
            obtain ⟨between, others⟩ := induction.mp ⟨_, after, later, remains⟩
            obtain ⟨output, typed⟩ := (exists_tells_iff standard).mp ⟨_, _, first, between⟩
            exact ⟨output, typed, others⟩
      · rintro ⟨output, typed, others⟩
        obtain ⟨result, between, first, kept⟩ := (exists_tells_iff standard).mpr ⟨output, typed⟩
        obtain ⟨results, after, later, remains⟩ := induction.mpr ⟨kept, others⟩
        exact ⟨_, after, .cons first later, remains⟩

end

/-- An entry of the files: an object with a path without null characters, and maybe a name. -/
structure FileEntry where
  members : Members
  path : Text
  name : Option Text
  path_eq : Members.get? members "path" = some (.text path)
  name_eq : Members.getD members "original_name" = .ofOption .text name
  clean : .char '\x00' ∉ path.points

namespace FileEntry

variable (entry : FileEntry)

def toJson : Value := .object entry.members

/-- The name given with the path, else the last part of the path. -/
def fileName : Text := (entry.name.filter (!·.isEmpty)).getD (Path.name entry.path)

theorem pathIn_eq : pathIn entry.members = .text entry.path := by
  rw [pathIn, entry.path_eq, Option.getD_some]

theorem fileName_eq :
    Command.fileName (Members.getD entry.members "original_name") (pathIn entry.members) =
      .ok (.text entry.fileName) := by
  rw [entry.pathIn_eq, entry.name_eq, fileName]
  cases entry.name with
  | none => rfl
  | some given =>
      cases empty : given.isEmpty with
      | true =>
          rw [Option.filter_some, empty]
          simp [Command.fileName, Value.ofOption, Value.isPresent, empty]
      | false =>
          rw [Option.filter_some, empty]
          simp [Command.fileName, Value.ofOption, Value.isPresent, empty]

theorem eq_fileName_of_named {name : Value} (named : Named entry.members name) :
    name = .text entry.fileName :=
  Except.ok.inj ((fileName_eq_ok_iff.mpr named).symm.trans entry.fileName_eq)

/-- A run goes on after an entry if the path can be asked for, or need not be. -/
theorem typed_iff (hasLanguage : Bool) :
    TypedEntry hasLanguage entry.toJson ↔
      (Known hasLanguage (.text entry.fileName) → entry.path.Nameable) := by
  have named := fileName_eq_ok_iff.mp entry.fileName_eq
  constructor
  · intro typed known
    rw [toJson] at typed
    cases typed with
    | @undetected _ name otherNamed untagged unknown =>
        obtain rfl : name = entry.fileName := Value.text.inj (entry.eq_fileName_of_named otherNamed)
        rcases known with given | ⟨text, same, detected⟩
        · rw [untagged] at given
          cases given
        · cases same
          rw [unknown] at detected
          cases detected
    | opened _ _ openable =>
        rw [entry.pathIn_eq] at openable
        cases openable with
        | path nameable => exact nameable
  · intro nameable
    by_cases known : Known hasLanguage (.text entry.fileName)
    · exact .opened named known (entry.pathIn_eq ▸ .path (nameable known))
    · rw [Known, not_or] at known
      refine .undetected named (Bool.eq_false_iff.mpr known.1) ?_
      rw [← Option.not_isSome_iff_eq_none]
      exact fun detected => known.2 ⟨_, rfl, detected⟩

theorem exists_path_of_located {source : FileSource}
    (located : FileSource.ofValue (pathIn entry.members) = .ok source) :
    ∃ name, source = .path entry.path name := by
  rw [entry.pathIn_eq, FileSource.ofValue, FileSource.ofText] at located
  split at located
  next name _ =>
    split at located
    next => cases located
    next =>
      cases located
      exact ⟨name, rfl⟩
  next => cases located

theorem ofValue_of_systemBytes? {name : SystemName}
    (located : entry.path.systemBytes? = some name) :
    FileSource.ofValue (pathIn entry.members) = .ok (.path entry.path name) := by
  have clean : 0 ∉ name := by
    intro zero
    simp only [Text.systemBytes?, Option.map_eq_some_iff] at located
    obtain ⟨parts, encoded, rfl⟩ := located
    exact entry.clean ((Text.zero_mem_flatten_iff encoded).mp zero)
  rw [entry.pathIn_eq, FileSource.ofValue, FileSource.ofText, located]
  exact if_neg (by simpa using clean)

/-- What is said of a path has nothing to do with the streams, which stay as they are. -/
theorem tells_alone {context : Context} {limit : Int} {requested : Option Tag}
    {before after : Streams} {result : FileResult}
    (told : Tells context limit requested before entry.toJson result after) :
    after = before ∧
      ∀ streams, Tells context limit requested streams entry.toJson result streams := by
  rw [toJson] at told ⊢
  cases told with
  | undetected named untagged => exact ⟨rfl, fun streams => .undetected named untagged⟩
  | unread named tagged located failed =>
      obtain ⟨name, rfl⟩ := entry.exists_path_of_located located
      obtain ⟨answered, rfl⟩ := Prod.mk.inj failed
      exact ⟨rfl, fun streams => .unread named tagged located (congrArg (·, streams) answered)⟩
  | read named tagged located opened analyzed =>
      obtain ⟨name, rfl⟩ := entry.exists_path_of_located located
      obtain ⟨answered, rfl⟩ := Prod.mk.inj opened
      exact ⟨rfl,
        fun streams => .read named tagged located (congrArg (·, streams) answered) analyzed⟩

end FileEntry

/-- The language of a request; the empty text is none. -/
def requestedTag (language : Option Text) : Option Tag :=
  (language.filter (!·.isEmpty)).map fun name => ⟨.text name, name⟩

theorem requestedTag_of_missing {language : Option Text} (missing : Missing language) :
    requestedTag language = none := by
  rcases missing with rfl | rfl <;> rfl

theorem requestedTag_some {language : Text} (named : language ≠ "") :
    requestedTag (some language) = some ⟨.text language, language⟩ := by
  rw [requestedTag, Option.filter_some, Text.isEmpty_eq_false named]
  rfl

theorem isSome_requestedTag_iff {language : Option Text} :
    (requestedTag language).isSome = true ↔ ¬ Missing language := by
  by_cases missing : Missing language
  · simp [requestedTag_of_missing missing, missing]
  · obtain ⟨name, rfl, named⟩ := exists_eq_some_of_not_missing missing
    simp [requestedTag_some named, missing]

theorem languageTag_ofOption (language : Option Text) :
    languageTag (.ofOption .text language) = .ok (requestedTag language) := by
  by_cases missing : Missing language
  · rw [languageTag_of_missing missing, requestedTag_of_missing missing]
  · obtain ⟨name, rfl, named⟩ := exists_eq_some_of_not_missing missing
    rw [requestedTag_some named]
    exact languageTag_text named

/-- The command is to analyse the files of some entries, in one language if one is given. -/
structure AsksFiles (context : Context) (input : String) (limit : Int) (language : Option Text)
    (entries : List FileEntry) : Prop where
  limited : ∃ settings, Settings.ofEnvironment context.environment = .ok settings ∧
    settings.maxCodeBytes = limit
  request : ∃ request,
    parseUnmarked context.limits (codePoints input.toList) = .ok (.object request) ∧
    Members.getD request "language" = .ofOption .text language ∧
    Members.getD request "files" = .array (entries.map (·.toJson))

theorem run_eq_runFiles {context : Context} {input : String} {limit : Int}
    {language : Option Text} {entries : List FileEntry}
    (asked : AsksFiles context input limit language entries) (some : entries ≠ []) :
    run context input =
      runFiles context limit (requestedTag language) (entries.map (·.toJson)) := by
  obtain ⟨settings, configured, rfl⟩ := asked.limited
  obtain ⟨request, parsed, named, listed⟩ := asked.request
  obtain ⟨first, rest, rfl⟩ := List.exists_cons_of_ne_nil some
  rw [List.map_cons] at listed ⊢
  rw [run, parsed]
  dsimp only
  rw [runRequest, configured, named, languageTag_ofOption, listed]
  rfl

/-- The outcome of a run over the files of some entries, whatever request asks for it. -/
structure FilesRun (context : Context) (limit : Int) (language : Option Text)
    (entries : List FileEntry) (outcome : Outcome) : Prop where
  files : runFiles context limit (requestedTag language) (entries.map (·.toJson)) = .ok outcome
  requests : ∀ input, AsksFiles context input limit language entries → entries ≠ [] →
    run context input = .ok outcome

section

variable {context : Context} {limit : Int} {language : Option Text} {entries : List FileEntry}
  {outcome : Outcome}

theorem filesRun_iff :
    FilesRun context limit language entries outcome ↔
      runFiles context limit (requestedTag language) (entries.map (·.toJson)) = .ok outcome := by
  constructor
  · exact FilesRun.files
  · intro ran
    exact ⟨ran, fun input asked some => (run_eq_runFiles asked some).trans ran⟩

/-- What a run says of an entry, alone or among others. -/
def TellsAlone (context : Context) (limit : Int) (language : Option Text) (entry : FileEntry)
    (result : FileResult) : Prop :=
  ∀ streams, Tells context limit (requestedTag language) streams entry.toJson result streams

theorem tellsAll_iff {before after : Streams} {results : List FileResult} :
    TellsAll context limit (requestedTag language) before (entries.map (·.toJson)) results after ↔
      after = before ∧ List.Forall₂ (TellsAlone context limit language) entries results := by
  induction entries generalizing before results with
  | nil =>
      rw [List.map_nil, List.forall₂_nil_left_iff]
      constructor
      · intro told
        cases told
        exact ⟨rfl, rfl⟩
      · rintro ⟨rfl, rfl⟩
        exact .nil _
  | cons entry rest induction =>
      rw [List.map_cons, List.forall₂_cons_left_iff]
      constructor
      · intro told
        cases told with
        | cons first later =>
            obtain ⟨rfl, alone⟩ := entry.tells_alone first
            obtain ⟨rfl, others⟩ := induction.mp later
            exact ⟨rfl, _, _, alone, others, rfl⟩
      · rintro ⟨rfl, result, others, alone, later, rfl⟩
        exact .cons (alone _) (induction.mpr ⟨rfl, later⟩)

theorem filesRun_iff_tellsAlone :
    FilesRun context limit language entries outcome ↔
      ∃ results, List.Forall₂ (TellsAlone context limit language) entries results ∧
        filesOutcome (requestedTag language) results = outcome := by
  rw [filesRun_iff, runFiles_eq_ok_iff]
  constructor
  · rintro ⟨results, after, told, -, answered⟩
    exact ⟨results, (tellsAll_iff.mp told).2, answered⟩
  · rintro ⟨results, alone, answered⟩
    exact ⟨results, {}, tellsAll_iff.mpr ⟨rfl, alone⟩, rfl, answered⟩

theorem exists_filesRun_iff (standard : context.analyzer = analyzeStandard) :
    (∃ outcome, FilesRun context limit language entries outcome) ↔
      ∀ entry ∈ entries, Known (requestedTag language).isSome (.text entry.fileName) →
        entry.path.Nameable := by
  have typed : (∀ entry ∈ entries.map (·.toJson),
      TypedEntry (requestedTag language).isSome entry) ↔
        ∀ entry ∈ entries, Known (requestedTag language).isSome (.text entry.fileName) →
          entry.path.Nameable := by
    simp only [List.forall_mem_map, FileEntry.typed_iff]
  rw [← typed]
  constructor
  · rintro ⟨outcome, ran⟩
    obtain ⟨results, after, told, remains, -⟩ := runFiles_eq_ok_iff.mp ran.files
    exact ((exists_tellsAll_iff standard).mp ⟨results, after, told, remains⟩).2
  · intro each
    obtain ⟨results, after, told, remains⟩ :=
      (exists_tellsAll_iff standard).mpr ⟨(rfl : ({} : Streams).output = true), each⟩
    exact ⟨_, filesRun_iff.mpr (runFiles_eq_ok_iff.mpr ⟨results, after, told, remains, rfl⟩)⟩

theorem known_iff {name : Text} :
    Known (requestedTag language).isSome (.text name) ↔
      ¬ Missing language ∨
        (Language.ofFileName? (String.ofList name.characters)).isSome = true := by
  rw [Known, isSome_requestedTag_iff]
  refine or_congr_right ⟨?_, fun detected => ⟨name, rfl, detected⟩⟩
  rintro ⟨text, same, detected⟩
  cases same
  exact detected

theorem TellsAlone.counts (standard : context.analyzer = analyzeStandard) {entry : FileEntry}
    {result : FileResult} (alone : TellsAlone context limit language entry result) :
    Counts result.toJson (Summary.ofBugs result.bugs) :=
  (alone {}).counts standard

theorem TellsAlone.filesRun {entry : FileEntry} {result : FileResult}
    (alone : TellsAlone context limit language entry result) :
    FilesRun context limit language [entry] (filesOutcome (requestedTag language) [result]) :=
  filesRun_iff_tellsAlone.mpr ⟨[result], .cons alone .nil, rfl⟩

end

/-- An outcome answers each entry, in order, as the outcome for this entry alone does, and its
summary is the sum of the summaries in these answers. -/
structure Decomposes (context : Context) (limit : Int) (language : Option Text)
    (entries : List FileEntry) (outcome : Outcome) (answers : List Value) (counts : List Summary) :
    Prop where
  listed : outcome.answer.member? "files" = some (.array answers)
  alone : List.Forall₂ (fun entry answer => ∃ alone,
    FilesRun context limit language [entry] alone ∧
      alone.answer.member? "files" = some (.array [answer])) entries answers
  counted : List.Forall₂ Counts answers counts
  summed : ∃ record, outcome.answer.member? "summary" = some record ∧
    Tallies record (Summary.sum counts)

/-- A run over files ends without an answer only where the path of a file whose language is known
cannot be asked for; otherwise it is put together from runs over its entries one by one. -/
theorem files_decompose {context : Context} (standard : context.analyzer = analyzeStandard)
    (limit : Int) (language : Option Text) (entries : List FileEntry) :
    ((∃ outcome, FilesRun context limit language entries outcome) ↔
      ∀ entry ∈ entries, (¬ Missing language ∨
        (Language.ofFileName? (String.ofList entry.fileName.characters)).isSome = true) →
          entry.path.Nameable) ∧
    ∀ outcome, FilesRun context limit language entries outcome →
      ∃ answers counts, Decomposes context limit language entries outcome answers counts := by
  refine ⟨by simp only [exists_filesRun_iff standard, known_iff], ?_⟩
  intro outcome ran
  obtain ⟨results, told, rfl⟩ := filesRun_iff_tellsAlone.mp ran
  refine ⟨results.map (·.toJson), results.map fun result => Summary.ofBugs result.bugs, rfl, ?_, ?_,
    _, rfl, ?_⟩
  · rw [List.forall₂_map_right_iff]
    apply told.imp
    intro entry result alone
    exact ⟨_, alone.filesRun, rfl⟩
  · rw [List.forall₂_map_left_iff, List.forall₂_map_right_iff, List.forall₂_same]
    exact forall_mem_of_forall₂ (fun entry result alone => alone.counts standard) told
  · rw [← Summary.ofBugs_flatMap]
    exact Summary.tallies_toJson _

/-- A file that is analysed, one of unknown language and one that is missing. -/
theorem files_decompose_of_three :
    let input := "\x7b\"files\":[\x7b\"path\":\"a.c\"\x7d,\x7b\"path\":\"b\"\x7d," ++
      "\x7b\"path\":\"c.c\"\x7d]\x7d"
    let context : Context := {
      analyzer := analyzeStandard
      environment := fun _ => none
      reader := fun name =>
        if name = Utf8.encode "a.c".toList then .ok (Utf8.encode "gets(x)".toList)
        else .error .notFound
      limits := { depth := 9 } }
    let entries : List FileEntry := [
      ⟨[("path", .text "a.c")], "a.c", none, rfl, rfl, by decide⟩,
      ⟨[("path", .text "b")], "b", none, rfl, rfl, by decide⟩,
      ⟨[("path", .text "c.c")], "c.c", none, rfl, rfl, by decide⟩]
    context.analyzer = analyzeStandard ∧ AsksFiles context input 1000000 none entries ∧
      ∃ outcome answers counts, run context input = .ok outcome ∧ answers.length = 3 ∧
        Decomposes context 1000000 none entries outcome answers counts := by
  intro input context entries
  have parsed : parseUnmarked context.limits (codePoints input.toList) =
      .ok (.object [("files", .array (entries.map (·.toJson)))]) := by
    decide +kernel
  have asked : AsksFiles context input 1000000 none entries :=
    { limited := ⟨{}, by decide +kernel, rfl⟩
      request := ⟨_, parsed, rfl, rfl⟩ }
  have standard : context.analyzer = analyzeStandard := rfl
  obtain ⟨runs, decomposes⟩ := files_decompose standard 1000000 none entries
  have nameable : ∀ entry ∈ entries, entry.path.Nameable := by
    simp only [entries, List.forall_mem_cons]
    exact ⟨Text.nameable_plain (by decide), Text.nameable_plain (by decide),
      Text.nameable_plain (by decide), by simp⟩
  obtain ⟨outcome, ran⟩ := runs.mpr fun entry member _ => nameable entry member
  obtain ⟨answers, counts, whole⟩ := decomposes outcome ran
  exact ⟨standard, asked, outcome, answers, counts, ran.requests input asked (by simp [entries]),
    whole.alone.length_eq.symm, whole⟩

/-- A path that is a text without null characters, and a run over it that prints nothing. -/
theorem unanswered_of_surrogate_in_path :
    let input := "\x7b\"files\":[\x7b\"path\":\"\\ud800.py\"\x7d]\x7d"
    let context : Context :=
      ⟨analyzeStandard, fun _ => none, fun _ => .error .notFound, { depth := 9 }⟩
    let path : Text := .broken "" 0 (codePoints ".py".toList)
    let entry : FileEntry := ⟨[("path", .text path)], path, none, rfl, rfl, by decide⟩
    AsksFiles context input 1000000 none [entry] ∧
      run context input = .error .loneSurrogate := by
  intro input context path entry
  have parsed : parseUnmarked context.limits (codePoints input.toList) =
      .ok (.object [("files", .array [entry.toJson])]) := by
    decide +kernel
  have asked : AsksFiles context input 1000000 none [entry] :=
    { limited := ⟨{}, by decide +kernel, rfl⟩
      request := ⟨_, parsed, rfl, rfl⟩ }
  exact ⟨asked, by decide +kernel⟩

end Command

end LineLint
