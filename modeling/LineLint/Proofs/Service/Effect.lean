import LineLint.Proofs.Report.Record
import LineLint.Service

namespace LineLint.Service

open Json

section

variable (service : Service) (context : Context) (request : Request)

theorem fst_handle :
    (service.handle context request).1 = (service.dispatch context request).1 := by
  unfold handle
  generalize service.dispatch context request = result
  rfl

theorem status_handle :
    (service.handle context request).2.status =
      ((service.dispatch context request).2.sent context.refusalDepth).status := by
  unfold handle
  generalize service.dispatch context request = result
  rfl

theorem body_handle :
    (service.handle context request).2.body =
      ((service.dispatch context request).2.sent context.refusalDepth).body := by
  unfold handle
  generalize service.dispatch context request = result
  rfl

end

theorem sent_of_isSendable {reply : Reply} {refusalDepth : Nat}
    (sendable : reply.body.isSendable refusalDepth = true) : reply.sent refusalDepth = reply :=
  if_pos sendable

theorem sent_of_not_isSendable {reply : Reply} {refusalDepth : Nat}
    (unsendable : reply.body.isSendable refusalDepth = false) :
    reply.sent refusalDepth = internalError := by
  rw [Reply.sent, unsendable]
  rfl

theorem isSendable_detail (status refusalDepth : Nat) (text : String) :
    (detail status text).body.isSendable refusalDepth = true := by
  simp [detail, Body.isSendable]

theorem isSendable_analysis (refusalDepth : Nat) (id warning : Option String) (report : Report) :
    (ok (analysisMembers id warning report)).body.isSendable refusalDepth = true := by
  have named := Value.isStandard_ofOption Value.isStandard_ofString id
  have warned := Value.isStandard_ofOption Value.isStandard_ofString warning
  simp [ok, Body.isSendable, analysisMembers, named, warned, report.all_isStandard_members]

def Request.Asks (request : Request) (route : Route) (method : String) : Prop :=
  Route.ofTarget? request.target = some route ∧ request.method.toUpper = method

/-- A request with what the service is given for it, and which of its parts fail this time. -/
structure Call where
  request : Request
  freshId : String
  now : String
  /-- Why the analysis does not run. -/
  fault : Option Fault := none
  canSave : Bool := true
  canList : Bool := true
  limits : Limits
  refusalDepth : Nat

namespace Call

variable (call : Call)

def context : Context where
  analyzer :=
    match call.fault with
    | some fault => fun _ _ => .error fault
    | none => analyzeStandard
  freshId := call.freshId
  now := call.now
  canSave := call.canSave
  canList := call.canList
  limits := call.limits
  refusalDepth := call.refusalDepth

def Asks (route : Route) (method : String) : Prop := call.request.Asks route method

/-- The body of the call gives a code and a language. -/
def Submits (code : String) (language : Text) : Prop :=
  Submission.ofBody call.limits call.request.body = .ok ⟨some code, some language⟩

def analysis (code : String) (language : Text) (report : Report) : Analysis :=
  ⟨call.freshId, some code, language, report, call.now⟩

variable {call}

theorem Asks.eq {route other : Route} {method otherMethod : String} (asked : call.Asks route method)
    (otherAsked : call.Asks other otherMethod) : route = other ∧ method = otherMethod :=
  ⟨Option.some.inj (asked.1.symm.trans otherAsked.1), asked.2.symm.trans otherAsked.2⟩

theorem analyzeStandard_of_analyzer {code : String} {language : Text} {report : Report}
    (analyzed : call.context.analyzer code language = .ok report) :
    analyzeStandard code language = .ok report := by
  rw [context] at analyzed
  cases fault : call.fault with
  | none => simpa only [fault] using analyzed
  | some fault => simp [fault] at analyzed

end Call

def Body.member? (body : Body) (name : String) : Option Value :=
  match body with
  | .value answer => answer.member? name
  | _ => none

/-- The text that the object of a body has under a name. -/
def Body.text? (body : Body) (name : String) : Option String :=
  match body.member? name with
  | some (.text (.plain text)) => some text
  | _ => none

def notSaved : String := "Results not saved to database"

/-- The service after a call and its reply, with what the call asked for. -/
inductive Effect (service : Service) (call : Call) : Service → Reply → Prop
  | saved {code : String} {language : Text} {report : Report} (asked : call.Asks .analyze "POST")
      (submitted : call.Submits code language)
      (analyzed : analyzeStandard code language = .ok report) :
      Effect service call
        { service with history := service.history.save (call.analysis code language report) }
        (ok (analysisMembers (some call.freshId) none report))
  | unsaved {code : String} {language : Text} {report : Report} (asked : call.Asks .analyze "POST")
      (submitted : call.Submits code language)
      (analyzed : analyzeStandard code language = .ok report) :
      Effect service call service (ok (analysisMembers none (some notSaved) report))
  | deleted {id : String} (asked : call.Asks (.analysis id) "DELETE")
      (found : (service.history.get? id).isSome = true) :
      Effect service call { service with history := (service.history.delete id).1 }
        (ok [("success", .bool true)])
  | read {status : Nat} {body : Body} (reading : call.request.method.toUpper ∈ ["GET", "HEAD"])
      (listed : status ∈ [200, 404, 500]) (silent : body.text? "warning" = none) :
      Effect service call service ⟨status, body⟩
  | refused {status : Nat} {body : Body} (listed : status ∈ [400, 404, 405, 413, 422, 500])
      (silent : body.text? "warning" = none) :
      Effect service call service ⟨status, body⟩

section

variable {service : Service} {call : Call}

theorem effect_detail {status : Nat} (listed : status ∈ [400, 404, 405, 413, 422, 500])
    (text : String) : Effect service call service (detail status text) :=
  .refused listed rfl

theorem effect_analyzeCode {code : String} {language : Text} (asked : call.Asks .analyze "POST")
    (submitted : call.Submits code language) :
    Effect service call (service.analyzeCode call.context code language).1
      (service.analyzeCode call.context code language).2 := by
  unfold analyzeCode
  split
  next => exact effect_detail (by decide) _
  next =>
    split
    next => exact effect_detail (by decide) _
    next report analyzed =>
      have standard := Call.analyzeStandard_of_analyzer analyzed
      split
      next => exact .saved asked submitted standard
      next => exact .unsaved asked submitted standard

theorem effect_analyze (asked : call.Asks .analyze "POST") :
    Effect service call (service.analyze call.context call.request.body).1
      (service.analyze call.context call.request.body).2 := by
  unfold analyze
  split
  next error _ =>
    cases error with
    | refused errors => exact .refused (by decide) rfl
    | unreadable => exact effect_detail (by decide) _
  next code language given =>
    split
    next code language present filled =>
      obtain ⟨rfl, -⟩ := Option.filter_eq_some_iff.mp present
      obtain ⟨rfl, -⟩ := Option.filter_eq_some_iff.mp filled
      exact effect_analyzeCode asked given
    next => exact .refused (by decide) rfl
    next => exact effect_detail (by decide) _

theorem effect_deleteAnalysis {id : String} (asked : call.Asks (.analysis id) "DELETE") :
    Effect service call (service.deleteAnalysis id).1 (service.deleteAnalysis id).2 := by
  unfold deleteAnalysis
  cases found : (service.history.get? id).isSome with
  | true =>
      simp only [History.delete, found, if_true]
      exact .deleted asked found
  | false =>
      simp only [History.delete, found, Bool.false_eq_true, if_false]
      exact effect_detail (by decide) _

theorem effect_read {status : Nat} {body : Body} {route : Route} {method : String}
    (asked : call.Asks route method) (reading : method ∈ ["GET", "HEAD"])
    (listed : status ∈ [200, 404, 500]) (silent : body.text? "warning" = none) :
    Effect service call service ⟨status, body⟩ :=
  .read (asked.2 ▸ reading) listed silent

theorem effect_dispatch (service : Service) (call : Call) :
    Effect service call (service.dispatch call.context call.request).1
      (service.dispatch call.context call.request).2 := by
  unfold dispatch
  split
  next => exact effect_detail (by decide) _
  next route method => exact effect_read ⟨route, method⟩ (by decide) (by decide) rfl
  next route method => exact effect_read ⟨route, method⟩ (by decide) (by decide) rfl
  next route method => exact effect_analyze ⟨route, method⟩
  next route method =>
    unfold listHistory
    split <;> exact effect_read ⟨route, method⟩ (by decide) (by decide) rfl
  next route method =>
    unfold getAnalysis
    split <;> exact effect_read ⟨route, method⟩ (by decide) (by decide) rfl
  next route method => exact effect_deleteAnalysis ⟨route, method⟩
  next route method => exact effect_read ⟨route, method⟩ (by decide) (by decide) rfl
  next route method => exact effect_read ⟨route, method⟩ (by decide) (by decide) rfl
  next => exact effect_detail (by decide) _

/-- A reply that cannot be sent changes nothing: those to calls that save or delete always can. -/
theorem Effect.sent {after : Service} {reply : Reply} (effect : Effect service call after reply)
    (refusalDepth : Nat) : Effect service call after (reply.sent refusalDepth) := by
  cases effect with
  | saved asked submitted analyzed =>
      rw [sent_of_isSendable (isSendable_analysis _ _ _ _)]
      exact .saved asked submitted analyzed
  | unsaved asked submitted analyzed =>
      rw [sent_of_isSendable (isSendable_analysis _ _ _ _)]
      exact .unsaved asked submitted analyzed
  | deleted asked found =>
      rw [sent_of_isSendable (by simp [ok, Body.isSendable])]
      exact .deleted asked found
  | read reading listed silent =>
      unfold Reply.sent
      split
      next => exact .read reading listed silent
      next => exact .read reading (by decide) rfl
  | refused listed silent =>
      unfold Reply.sent
      split
      next => exact .refused listed silent
      next => exact .refused (by decide) rfl

theorem effect_handle (service : Service) (call : Call) :
    Effect service call (service.dispatch call.context call.request).1
      ((service.dispatch call.context call.request).2.sent call.context.refusalDepth) :=
  (effect_dispatch service call).sent call.context.refusalDepth

end

end LineLint.Service
