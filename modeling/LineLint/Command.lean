import LineLint.Analysis
import LineLint.FileTree
import LineLint.Json.Read
import LineLint.Json.Render
import LineLint.Report.Record
import LineLint.Settings
import LineLint.Text.Utf8

namespace LineLint.Command

open Json

structure Context where
  analyzer : Analyzer
  environment : Environment
  reader : FileReader
  limits : Limits

/-- Why the command ends with nothing printed. -/
inductive Crash
  /-- A language that is a list or an object. -/
  | unusableLanguage
  /-- A code or a name that is not a text. -/
  | notText
  /-- A code or a path with a surrogate that has no bytes. -/
  | loneSurrogate
  /-- An entry of the files that is not an object. -/
  | notARecord
  | notAPath
  | nulInPath
  /-- A descriptor below zero in place of a path. -/
  | negativeDescriptor
  /-- The output was read as a file, and closed after that. -/
  | outputClosed
  | tooDeep
  /-- An integer of too many digits. -/
  | tooLong
  | settings (error : SettingsError)
  | analysis (fault : Fault)
  deriving Repr, DecidableEq

structure Outcome where
  succeeded : Bool
  answer : Value

def Outcome.exitCode (outcome : Outcome) : UInt32 := if outcome.succeeded then 0 else 1

def Outcome.output (outcome : Outcome) : String := outcome.answer.render ++ "\n"

def success (members : Members) : Outcome := ⟨true, .object members⟩

def failure (message : String) (more : Members) : Outcome :=
  ⟨false, .object (("error", .text message) :: more)⟩

/-- The language that is asked for, with the name that it is looked up by. -/
structure Tag where
  value : Value
  name : Text

/-- How decimals are shown in names. -/
def plainLayout : DecimalLayout := { decimalLayout with infinity := "inf", undefined := "nan" }

/-- The name of a language that need not be a text. -/
def languageName? : Value → Option Text
  | .text name => some name
  | .bool true => some "True"
  | .bool false => some "False"
  | .integer n => some (toString n : String)
  | .decimal x => some (String.ofList (plainLayout.render x))
  | .null | .array _ | .object _ => none

def languageTag (value : Value) : Except Crash (Option Tag) :=
  if value.isPresent then
    match languageName? value with
    | some name => .ok (some ⟨value, name⟩)
    | none => .error .unusableLanguage
  else .ok none

def warning? (tag : Option Tag) : Option Text :=
  match tag with
  | some tag =>
      if (Language.ofText? tag.name).isSome then none
      else some (tag.name.wrap "Unsupported language '" "', no rules applied")
  | none => none

def warningMembers (tag : Option Tag) : Members :=
  match warning? tag with
  | some warning => [("warning", .text warning)]
  | none => []

def missingInput : Outcome :=
  failure "Missing required input. Provide 'code' and 'language', or 'files' (array)." [
    ("examples", .object [
      ("code", .object [("code", .text "var x = 1;"), ("language", .text "javascript")]),
      ("files", .object [
        ("files", .array [
          .object [("path", .text "/tmp/app.py"), ("original_name", .text "app.py")]])])])]

def exceeds (code : String) (limit : Int) : Bool := limit < (Utf8.size code.toList : Int)

def codeTooLarge (limit : Int) : String :=
  "Code exceeds maximum size of " ++ toString limit ++ " bytes"

def runCode (context : Context) (limit : Int) (tag : Tag) (code : String) : Outcome :=
  if exceeds code limit then failure (codeTooLarge limit) []
  else
    match context.analyzer code tag.name with
    | .ok report =>
        success (("language", tag.value) :: (report.members ++ warningMembers (some tag)))
    | .error fault => failure ("Analysis failed: " ++ fault.message) []

/-- What is said of a file: an error, or its language and the report on it. -/
structure FileResult where
  name : Value
  outcome : Except Text (Value × Report)

namespace FileResult

def toJson (result : FileResult) : Value :=
  match result.outcome with
  | .ok (language, report) =>
      .object (("file", result.name) :: ("language", language) :: report.members)
  | .error message => .object [("file", result.name), ("error", .text message)]

def bugs (result : FileResult) : List Bug :=
  match result.outcome with
  | .ok (_, report) => report.bugs
  | .error _ => []

end FileResult

/-- The name of a file: the one given with it, else the last part of its path. -/
def fileName (given path : Value) : Except Crash Value :=
  if given.isPresent then .ok given
  else
    match path with
    | .text path => .ok (.text (Path.name path))
    | _ => .error .notAPath

/-- The language of a file: that of the request, else the one its name tells. -/
def fileTag (requested : Option Tag) (name : Value) : Except Crash (Option Tag) :=
  match requested, name with
  | some tag, _ => .ok (some tag)
  | none, .text name =>
      .ok ((Language.ofFileName? (String.ofList name.characters)).map fun language =>
        ⟨.text language.name, language.name⟩)
  | none, _ => .error .notText

/-- What a file is opened by, as it is shown: its path, or the number of an open file. -/
inductive FileSource
  | path (shown : Text) (name : SystemName)
  | descriptor (shown : String) (number : Nat)
  deriving Repr, DecidableEq

/-- The standard streams that are still open. -/
structure Streams where
  input : Bool := true
  output : Bool := true
  deriving Repr, DecidableEq

namespace FileSource

def shown : FileSource → Text
  | path name _ => name
  | descriptor number _ => number

/-- The numbers of open files have 32 bits; any other number is no path either. -/
def ofInteger (n : Int) : Except Crash FileSource :=
  if n < -0x80000000 || 0x80000000 ≤ n then .error .notAPath
  else if n < 0 then .error .negativeDescriptor
  else .ok (.descriptor (toString n) n.toNat)

def ofText (path : Text) : Except Crash FileSource :=
  match path.systemBytes? with
  | some name => if name.contains 0 then .error .nulInPath else .ok (.path path name)
  | none => .error .loneSurrogate

def ofValue : Value → Except Crash FileSource
  | .text text => ofText text
  | .integer n => ofInteger n
  | .bool true => .ok (.descriptor "True" 1)
  | .bool false => .ok (.descriptor "False" 0)
  | _ => .error .notAPath

/-- Reads a file, which closes it. Of the files that are open beforehand, the input has been read to
its end, and the outputs cannot be read. -/
def read (reader : FileReader) (streams : Streams) :
    FileSource → Except ReadError (List UInt8) × Streams
  | path _ name => (reader name, streams)
  | descriptor _ 0 =>
      (if streams.input then .ok [] else .error .badDescriptor, { streams with input := false })
  | descriptor _ 1 => (.error .badDescriptor, { streams with output := false })
  | descriptor _ _ => (.error .badDescriptor, streams)

end FileSource

def fileText (bytes : List UInt8) : String := String.ofList (normalizeBreaks (Utf8.decode bytes))

def fileTooLarge (limit : Int) : String :=
  "File exceeds maximum size of " ++ toString limit ++ " bytes"

def analyzeFile (context : Context) (limit : Int) (tag : Tag) (code : String) :
    Except Crash (Except Text (Value × Report)) :=
  if exceeds code limit then .ok (.error (fileTooLarge limit))
  else
    match context.analyzer code tag.name with
    | .ok report => .ok (.ok (tag.value, report))
    | .error fault => .error (.analysis fault)

/-- What is said of an entry of the files, with the streams that are open after it. -/
def runFile (context : Context) (limit : Int) (requested : Option Tag) (streams : Streams)
    (entry : Value) : Except Crash (FileResult × Streams) :=
  match entry with
  | .object members => do
      let path := (Members.get? members "path").getD (.text "")
      let name ← fileName (Members.getD members "original_name") path
      match ← fileTag requested name with
      | none => return (⟨name, .error "Could not detect language from file extension"⟩, streams)
      | some tag =>
          let source ← FileSource.ofValue path
          match source.read context.reader streams with
          | (.ok bytes, after) =>
              return (⟨name, ← analyzeFile context limit tag (fileText bytes)⟩, after)
          | (.error error, after) => return (⟨name, .error (error.message source.shown)⟩, after)
  | _ => .error .notARecord

def runEntries (context : Context) (limit : Int) (requested : Option Tag) (streams : Streams) :
    List Value → Except Crash (List FileResult × Streams)
  | [] => .ok ([], streams)
  | entry :: rest => do
      let (result, between) ← runFile context limit requested streams entry
      let (results, after) ← runEntries context limit requested between rest
      return (result :: results, after)

def filesOutcome (requested : Option Tag) (results : List FileResult) : Outcome :=
  success (("files", .array (results.map (·.toJson))) ::
    ("summary", (Summary.ofBugs (results.flatMap (·.bugs))).toJson) :: warningMembers requested)

def runFiles (context : Context) (limit : Int) (requested : Option Tag) (entries : List Value) :
    Except Crash Outcome := do
  let (results, streams) ← runEntries context limit requested {} entries
  if streams.output then return filesOutcome requested results else .error .outputClosed

/-- The answer to a request. Files, if there are any, come before a code. -/
def runRequest (context : Context) (request : Members) : Except Crash Outcome := do
  let settings ← (Settings.ofEnvironment context.environment).mapError .settings
  let tag ← languageTag (Members.getD request "language")
  match Members.getD request "files" with
  | .array (first :: rest) => runFiles context settings.maxCodeBytes tag (first :: rest)
  | _ =>
      let code := Members.getD request "code"
      match tag, code.isPresent with
      | some tag, true =>
          match code with
          | .text (.plain code) => return runCode context settings.maxCodeBytes tag code
          | .text (.broken ..) => .error .loneSurrogate
          | _ => .error .notText
      | _, _ => return missingInput

def run (context : Context) (input : String) : Except Crash Outcome :=
  match parseUnmarked context.limits (codePoints input.toList) with
  | .ok (.object request) => runRequest context request
  | .ok _ => .ok (failure "Input must be a JSON object" [])
  | .error (.malformed error) =>
      .ok (failure ("Invalid JSON input: " ++ error.message (codePoints input.toList)) [])
  | .error .tooDeep => .error .tooDeep
  | .error .tooLong => .error .tooLong

/-- The paths of the files that a request lists, those with surrogates left out. -/
def paths (limits : Limits) (input : String) : List String :=
  match parseUnmarked limits (codePoints input.toList) with
  | .ok (.object request) =>
      match Members.getD request "files" with
      | .array entries => entries.filterMap fun entry =>
          match entry with
          | .object members =>
              match Members.get? members "path" with
              | some (.text (.plain path)) => some path
              | _ => none
          | _ => none
      | _ => []
  | _ => []

end LineLint.Command
