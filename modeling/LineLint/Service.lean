import LineLint.Analysis
import LineLint.History.Record
import LineLint.Service.Route
import LineLint.Service.Submission
import LineLint.Settings

namespace LineLint

open Json

structure Service where
  maxCodeBytes : Int
  history : History
  deriving Repr, DecidableEq

namespace Service

def create (settings : Settings) : Except CapacityError Service := do
  let history ← History.create settings.historySize
  return ⟨settings.maxCodeBytes, history⟩

structure Request where
  method : String
  target : String
  /-- No bytes if there is no body. -/
  body : List UInt8
  origin : Option String
  deriving Repr, DecidableEq

structure Context where
  analyzer : Analyzer
  /-- The identifier and the time of an analysis that this request may save. -/
  freshId : String
  now : String
  canSave : Bool := true
  canList : Bool := true
  /-- What is read of the body of a request. -/
  limits : Limits
  /-- How many arrays and objects may stand inside each other in a value that a refusal tells of. -/
  refusalDepth : Nat

inductive Body
  | value (value : Value)
  /-- Why the body of the request was refused. -/
  | refusal (refusals : List Refusal)
  | page
  /-- What is sent where the request ended in an exception that nothing handles. -/
  | internalError

structure Response where
  status : Nat
  body : Body
  /-- The origin whose pages may read the response. -/
  allowedOrigin : Option String

structure Reply where
  status : Nat
  body : Body

def ok (members : Members) : Reply := ⟨200, .value (.object members)⟩

def detail (status : Nat) (text : String) : Reply :=
  ⟨status, .value (.object [("detail", .text text)])⟩

def notFound : Reply := detail 404 "Not Found"

def methodNotAllowed : Reply := detail 405 "Method Not Allowed"

def analysisNotFound : Reply := detail 404 "Analysis not found"

def internalError : Reply := ⟨500, .internalError⟩

def refuse : BodyError → Reply
  | .refused refusals => ⟨422, .refusal refusals⟩
  | .unreadable => detail 400 "There was an error parsing the body"

def allowedOrigins : List String :=
  ["http://localhost:5173", "http://localhost:3000", "http://localhost:8000"]

/-- An origin is allowed only as it is listed. -/
def allowedOrigin? (origin : Option String) : Option String :=
  origin.filter allowedOrigins.contains

def analysisMembers (id warning : Option String) (report : Report) : Members :=
  ("id", .ofOption .ofString id) ::
    (report.members ++ ([("warning", .ofOption .ofString warning)] : Members))

def codeTooLarge (limit : Int) : String :=
  "Code exceeds maximum size of " ++ toString limit ++ " bytes"

/-- A text and the language it is written in, both not empty. -/
def analyzeCode (service : Service) (context : Context) (code : String) (language : Text) :
    Service × Reply :=
  if service.maxCodeBytes < (Utf8.size code.toList : Int) then
    (service, detail 413 (codeTooLarge service.maxCodeBytes))
  else
    match context.analyzer code language with
    | .error _ => (service, detail 500 "Failed to analyze code")
    | .ok report =>
        if context.canSave then
          let analysis : Analysis := ⟨context.freshId, some code, language, report, context.now⟩
          ({ service with history := service.history.save analysis },
            ok (analysisMembers (some context.freshId) none report))
        else
          (service, ok (analysisMembers none (some "Results not saved to database") report))

def analyze (service : Service) (context : Context) (body : List UInt8) : Service × Reply :=
  match Submission.ofBody context.limits body with
  | .error error => (service, refuse error)
  | .ok ⟨code, language⟩ =>
      match code.filter (!·.isEmpty), language.filter (!·.isEmpty) with
      | some (.plain code), some language => service.analyzeCode context code language
      | some (.broken ..), some _ => (service, internalError)
      | _, _ => (service, detail 400 "Code and language are required")

def listHistory (service : Service) (context : Context) : Reply :=
  if context.canList then
    ok [("analyses", .array ((service.history.recent History.recentLimit).map (·.toJson)))]
  else detail 500 "Failed to fetch history"

def getAnalysis (service : Service) (id : String) : Reply :=
  match service.history.get? id with
  | some analysis => ok [("analysis", analysis.toJson)]
  | none => analysisNotFound

def deleteAnalysis (service : Service) (id : String) : Service × Reply :=
  let (history, deleted) := service.history.delete id
  if deleted then ({ service with history }, ok [("success", .bool true)])
  else (service, analysisNotFound)

/-- Methods are compared in upper case. -/
def dispatch (service : Service) (context : Context) (request : Request) : Service × Reply :=
  match Route.ofTarget? request.target, request.method.toUpper with
  | none, _ => (service, notFound)
  | some .health, "GET" => (service, ok [("status", .text "ok")])
  | some .languages, "GET" =>
      (service, ok [("languages",
        .array (Registry.standard.names.map fun name : String => .text name))])
  | some .analyze, "POST" => service.analyze context request.body
  | some .history, "GET" => (service, service.listHistory context)
  | some (.analysis id), "GET" => (service, service.getAnalysis id)
  | some (.analysis id), "DELETE" => service.deleteAnalysis id
  | some .manual, "GET" | some .manual, "HEAD" => (service, ⟨200, .page⟩)
  | some _, _ => (service, methodNotAllowed)

def Body.isSendable (refusalDepth : Nat) : Body → Bool
  | .value answer => answer.isStandard
  | .refusal refusals =>
      refusals.all fun refusal =>
        refusal.value.isStandard && refusal.value.depth ≤ refusalDepth
  | .page | .internalError => true

/-- A reply that cannot be written fails the request. -/
def Reply.sent (reply : Reply) (refusalDepth : Nat) : Reply :=
  if reply.body.isSendable refusalDepth then reply else Service.internalError

/-- The response to a request that fails goes out unmarked, whatever its origin. -/
def handle (service : Service) (context : Context) (request : Request) : Service × Response :=
  let (next, reply) := service.dispatch context request
  let sent := reply.sent context.refusalDepth
  let origin := match sent.body with
    | .internalError => none
    | _ => allowedOrigin? request.origin
  (next, ⟨sent.status, sent.body, origin⟩)

end Service

end LineLint
