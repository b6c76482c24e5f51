import LineLint.Proofs.Service.Run
import LineLint.Proofs.Service.Target

namespace LineLint.Service

open Json

/-- The body answers a code with a report, an identifier and a warning; those that there are not are
null. -/
structure Reports (body : Body) (id warning : Option String) (report : Report) : Prop where
  id : body.member? "id" = some (.ofOption .ofString id)
  warning : body.member? "warning" = some (.ofOption .ofString warning)
  conveys : ∃ answer, body = .value answer ∧ Conveys answer report

/-- What a call does to the history, as its answer tells it. -/
structure Accounts (service : Service) (call : Call) : Prop where
  status : (service.answer call).status ∈ [200, 400, 404, 405, 413, 422, 500]
  saved : ∀ id, service.Saves call id → ∃ code language report,
    id = call.freshId ∧ call.Submits code language ∧
      analyzeStandard code language = .ok report ∧
      Reports (service.answer call).body (some id) none report ∧
      (service.next call).history.analyses =
        call.analysis code language report ::
          if service.history.size < service.history.capacity then service.history.analyses
          else service.history.analyses.dropLast
  deleted : ∀ id, service.Deletes call id → ∃ newer analysis older,
    service.history.analyses = newer ++ analysis :: older ∧ analysis.id = id ∧
      (service.next call).history.analyses = newer ++ older
  unsaved : (service.answer call).body.text? "warning" = some notSaved →
    ∃ code language report, call.Submits code language ∧
      analyzeStandard code language = .ok report ∧ (service.answer call).status = 200 ∧
      Reports (service.answer call).body none (some notSaved) report ∧
      service.next call = service
  otherwise : (∀ id, ¬ service.Saves call id) → (∀ id, ¬ service.Deletes call id) →
    service.next call = service

/-- A record tells all of an analysis, perhaps without its code. -/
structure Describes (record : Value) (code : Option String) (analysis : Analysis) : Prop
    extends Conveys record analysis.report where
  id : record.member? "id" = some (.text analysis.id)
  code : record.member? "code" = some (.ofOption .ofString code)
  language : record.member? "language" = some (.text analysis.language)
  createdAt : record.member? "created_at" = some (.text analysis.createdAt)

def Shows (service : Service) (get : Call) (analysis : Analysis) : Prop :=
  (service.answer get).status = 200 ∧ ∃ record,
    (service.answer get).body.member? "analysis" = some record ∧
      Describes record analysis.code analysis

def Misses (service : Service) (get : Call) : Prop :=
  (service.answer get).status = 404 ∧
    (service.answer get).body = .value (.object [("detail", .text "Analysis not found")])

/-- The newest analyses without their codes, at most fifty of them. -/
def Lists (service : Service) (list : Call) : Prop :=
  (service.answer list).status = 200 ∧ ∃ records listed,
    (service.answer list).body.member? "analyses" = some (.array records) ∧
      listed <+: service.history.analyses ∧ listed.length = min 50 service.history.size ∧
      List.Forall₂ (Describes · none ·) records listed

/-- The answer to the call cannot be written. -/
def Breaks (service : Service) (call : Call) : Prop :=
  (service.answer call).status = 500 ∧ (service.answer call).body = .internalError

/-- After the calls the service gives back what the answer to the earlier call showed, until a later
call drops it, and from then on has nothing under its identifier. An analysis whose language has
surrogates in it is not given back. -/
structure GivesBack (start : Service) (before : List Call) (call : Call) (since : List Call)
    (analysis : Analysis) : Prop where
  submitted : ∃ code, analysis.code = some code ∧ call.Submits code analysis.language
  answered : Reports ((start.run before).answer call).body (some analysis.id) none analysis.report
  shows : (∀ earlier other later, since = earlier ++ other :: later →
      ¬ (start.run (before ++ call :: earlier)).Drops other analysis.id) →
    ∀ get : Call, get.Asks (.analysis analysis.id) "GET" →
      match analysis.language with
      | .plain _ => (start.run (before ++ call :: since)).Shows get analysis
      | .broken .. => (start.run (before ++ call :: since)).Breaks get
  misses : (∃ earlier other later, since = earlier ++ other :: later ∧
      (start.run (before ++ call :: earlier)).Drops other analysis.id) →
    ∀ get : Call, get.Asks (.analysis analysis.id) "GET" →
      (start.run (before ++ call :: since)).Misses get

/-- How a call for the list is answered, whose parts may fail and whose languages may be unfit. -/
structure Listing (service : Service) (list : Call) : Prop where
  failed : list.canList = false → (service.answer list).status = 500
  lists : list.canList = true →
    (∀ analysis ∈ service.history.analyses.take 50, ∃ name, analysis.language = .plain name) →
      service.Lists list
  breaks : list.canList = true → ∀ analysis ∈ service.history.analyses.take 50,
    (∀ name, analysis.language ≠ .plain name) → service.Breaks list

structure Integrity (start : Service) (calls : List Call) : Prop where
  bounded : (start.run calls).history.size ≤ (start.run calls).history.capacity
  accounts : ∀ call, (start.run calls).Accounts call
  right : ∀ analysis ∈ (start.run calls).history.analyses,
    ∃ code, analysis.code = some code ∧ analyzeStandard code analysis.language = .ok analysis.report
  newestFirst :
    ((start.run calls).history.analyses.map (·.id)).Sublist (calls.map (·.freshId)).reverse
  givesBack : ∀ before call since id, calls = before ++ call :: since →
    (start.run before).Saves call id →
      ∃ analysis, analysis.id = id ∧ GivesBack start before call since analysis
  lists : ∀ list : Call, list.Asks .history "GET" → (start.run calls).Listing list

variable {start service : Service} {issued : List String} {call : Call} {analysis : Analysis}
  {before since calls : List Call} {id : String}

theorem reports_of_body {body : Body} {id warning : Option String} {report : Report}
    (held : body = .value (.object (analysisMembers id warning report))) :
    Reports body id warning report := by
  subst held
  exact ⟨rfl, rfl, _, rfl, conveys_of_members rfl rfl⟩

theorem Sound.accounts (sound : service.Sound issued) (call : Call) : service.Accounts call where
  status := service.status_answer_mem call
  saved := fun id saves => by
    obtain ⟨code, language, report, given, submitted, analyzed, body, next⟩ :=
      saves.exists_analysis
    refine ⟨code, language, report, given, submitted, analyzed, reports_of_body body, ?_⟩
    rw [next]
    split
    next room => exact History.analyses_save_of_lt room
    next full =>
      exact History.analyses_save_of_eq sound.positive
        (Nat.le_antisymm sound.bounded (Nat.le_of_not_lt full))
  deleted := fun id deletes => by
    obtain ⟨⟨analysis, member, same⟩, next⟩ := deletes.exists_analysis
    obtain ⟨removed, newer, older, -, found, split, rest⟩ :=
      List.exists_of_eraseP (p := (·.id == id)) member (by simpa using same)
    exact ⟨newer, removed, older, split, by simpa using found, by rw [next]; exact rest⟩
  unsaved := fun warned => by
    obtain ⟨code, language, report, submitted, analyzed, status, body, next⟩ :=
      exists_report_of_warning warned
    exact ⟨code, language, report, submitted, analyzed, status, reports_of_body body, next⟩
  otherwise := next_eq_self

theorem describes_toJson (analysis : Analysis) :
    Describes analysis.toJson analysis.code analysis where
  toConveys := conveys_of_members rfl rfl
  id := rfl
  code := rfl
  language := rfl
  createdAt := rfl

theorem describes_of_abridges {listed : Analysis} (abridges : History.Abridges listed analysis) :
    Describes listed.toJson none analysis where
  toConveys := by
    have same : listed.report = analysis.report := by
      rw [Report.mk.injEq]
      exact ⟨abridges.bugs, abridges.summary⟩
    exact same ▸ conveys_of_members rfl rfl
  id := abridges.id ▸ rfl
  code := abridges.code ▸ rfl
  language := abridges.language ▸ rfl
  createdAt := abridges.createdAt ▸ rfl

theorem isStandard_toJson (analysis : Analysis) :
    analysis.toJson.isStandard = analysis.language.isPlain := by
  have coded := Value.isStandard_ofOption Value.isStandard_ofString analysis.code
  simp [Analysis.toJson, coded, analysis.report.all_isStandard_members]

theorem breaks_of_reply {call : Call} (unsent : service.reply call = internalError) :
    service.Breaks call := by
  rw [Breaks, status_answer, body_answer, unsent]
  exact ⟨rfl, rfl⟩

theorem reply_of_mem (distinct : service.history.Distinct)
    (member : analysis ∈ service.history.analyses) {get : Call}
    (asked : get.Asks (.analysis analysis.id) "GET") :
    service.reply get = (ok [("analysis", analysis.toJson)]).sent get.context.refusalDepth := by
  rw [reply_get asked, getAnalysis, distinct.get?_eq_some_iff.mpr ⟨member, rfl⟩]

theorem shows_of_mem (distinct : service.history.Distinct)
    (member : analysis ∈ service.history.analyses) {get : Call}
    (asked : get.Asks (.analysis analysis.id) "GET") :
    match analysis.language with
    | .plain _ => service.Shows get analysis
    | .broken .. => service.Breaks get := by
  have reply := reply_of_mem distinct member asked
  split
  next name plain =>
    rw [sent_of_isSendable (by simp [ok, Body.isSendable, isStandard_toJson, plain])] at reply
    rw [Shows, status_answer, body_answer, reply]
    exact ⟨rfl, _, rfl, describes_toJson analysis⟩
  next broken =>
    apply breaks_of_reply
    rw [reply, sent_of_not_isSendable]
    simp [ok, Body.isSendable, isStandard_toJson, broken, Text.isPlain]

theorem Lacks.misses (lacks : service.Lacks id) {get : Call}
    (asked : get.Asks (.analysis id) "GET") : service.Misses get := by
  have reply : service.reply get = analysisNotFound := by
    rw [reply_get asked, getAnalysis, History.get?_eq_none_iff.mpr lacks]
    exact sent_of_isSendable (isSendable_detail _ _ _)
  rw [Misses, status_answer, body_answer, reply]
  exact ⟨rfl, rfl⟩

theorem isSendable_recent (refusalDepth : Nat) :
    (ok [("analyses", .array ((service.history.recent History.recentLimit).map
      (·.toJson)))]).body.isSendable refusalDepth =
        (service.history.analyses.take 50).all (·.language.isPlain) := by
  have unchanged : ∀ analysis : Analysis, analysis.withoutCode.language = analysis.language :=
    fun _ => rfl
  simp only [ok, Body.isSendable, Value.isStandard_object, List.all_cons, List.all_nil,
    Text.isPlain_plain, Value.isStandard_array, List.all_map, History.recent, Function.comp_def,
    isStandard_toJson, unchanged, Bool.true_and, Bool.and_true]
  rfl

section

variable {list : Call} (asked : list.Asks .history "GET")

include asked

theorem reply_of_canList (able : list.canList = true) :
    service.reply list =
      (ok [("analyses", .array ((service.history.recent History.recentLimit).map (·.toJson)))]).sent
        list.context.refusalDepth := by
  have listing : list.context.canList = true := able
  rw [reply_list asked, listHistory, if_pos listing]

theorem lists_of_plain (able : list.canList = true)
    (plain : ∀ analysis ∈ service.history.analyses.take 50,
      ∃ name, analysis.language = .plain name) : service.Lists list := by
  have sendable : (service.history.analyses.take 50).all (·.language.isPlain) = true := by
    rw [List.all_eq_true]
    intro analysis member
    obtain ⟨name, written⟩ := plain analysis member
    rw [written]
    rfl
  have reply := service.reply_of_canList asked able
  rw [sent_of_isSendable (by rw [isSendable_recent, sendable])] at reply
  obtain ⟨newest, abridged, order, count⟩ := service.history.exists_recent History.recentLimit
  rw [Lists, status_answer, body_answer, reply]
  refine ⟨rfl, _, newest, rfl, order, ?_, ?_⟩
  · rw [History.recentLimit] at count
    omega
  · rw [List.forall₂_map_left_iff]
    exact abridged.imp fun _ _ => describes_of_abridges

theorem breaks_of_broken (able : list.canList = true)
    (member : analysis ∈ service.history.analyses.take 50)
    (broken : ∀ name, analysis.language ≠ .plain name) : service.Breaks list := by
  have unsendable : (service.history.analyses.take 50).all (·.language.isPlain) = false := by
    rw [List.all_eq_false]
    refine ⟨analysis, member, ?_⟩
    cases written : analysis.language with
    | plain name => exact absurd written (broken name)
    | broken => exact Bool.false_ne_true
  apply breaks_of_reply
  rw [service.reply_of_canList asked able, sent_of_not_isSendable]
  rw [isSendable_recent, unsendable]

theorem listing_of_asks : service.Listing list where
  failed := fun unable => by
    have unlisted : ¬ list.context.canList = true := by
      rw [Call.context, unable]
      exact Bool.false_ne_true
    have reply : service.reply list = detail 500 "Failed to fetch history" := by
      rw [reply_list asked, listHistory, if_neg unlisted]
      exact sent_of_isSendable (isSendable_detail _ _ _)
    rw [status_answer, reply]
    rfl
  lists := service.lists_of_plain asked
  breaks := fun able _ => service.breaks_of_broken asked able

end

theorem run_append_cons (start : Service) (before since : List Call) (call : Call) :
    start.run (before ++ call :: since) = ((start.run before).next call).run since := by
  rw [run_append, run_cons]

theorem Saves.givesBack (saves : (start.run before).Saves call id) (sound : start.Sound issued)
    (fresh : (issued ++ (before ++ call :: since).map (·.freshId)).Nodup) :
    ∃ analysis, analysis.id = id ∧ GivesBack start before call since analysis := by
  obtain ⟨code, language, report, rfl, submitted, analyzed, body, next⟩ := saves.exists_analysis
  have sound := (sound.run before).next call
  have fresh : (issued ++ before.map (·.freshId) ++ [call.freshId] ++
      since.map (·.freshId)).Nodup := by
    simpa using fresh
  have member : call.analysis code language report ∈
      ((start.run before).next call).history.analyses := by
    rw [next]
    exact History.mem_save (by simpa [next] using sound.positive)
  refine ⟨call.analysis code language report, rfl, ⟨code, rfl, submitted⟩,
    reports_of_body body, ?_, ?_⟩
  · intro spared get asked
    simp only [run_append_cons] at spared ⊢
    have remains := mem_run_of_not_drops sound fresh member spared
    exact shows_of_mem ((sound.run since).distinct fresh) remains asked
  · rintro ⟨earlier, other, later, split, drops⟩ get asked
    rw [run_append_cons] at drops ⊢
    exact (lacks_run_of_drops sound fresh (by simp [Call.analysis]) split drops).misses asked

theorem Sound.integrity (sound : start.Sound []) (fresh : (calls.map (·.freshId)).Nodup) :
    Integrity start calls where
  bounded := (sound.run calls).bounded
  accounts := (sound.run calls).accounts
  right := (sound.run calls).right
  newestFirst := by simpa using (sound.run calls).newestFirst
  givesBack := fun before call since id split saves =>
    saves.givesBack sound (by simpa [split] using fresh)
  lists := fun list asked => listing_of_asks asked

/-- Whatever is asked, and whichever parts fail on the way, a new service keeps its history as its
answers say. The path of an analysis is that of its identifier. -/
theorem create_integrity {settings : Settings} (positive : 1 ≤ settings.historySize)
    (fresh : (calls.map (·.freshId)).Nodup) :
    (∃ start, create settings = .ok start ∧ start.maxCodeBytes = settings.maxCodeBytes ∧
      start.history.capacity = settings.historySize ∧ Integrity start calls) ∧
    ∀ id : String, id ≠ "" → (∀ c ∈ id.toList, c.isAlphanum = true) →
      Route.ofTarget? ("/history/" ++ id) = some (.analysis id) := by
  refine ⟨⟨⟨settings.maxCodeBytes, ⟨settings.historySize.toNat, []⟩⟩, ?_, rfl, ?_, ?_⟩, ?_⟩
  · rw [create, History.create, if_neg (by omega)]
    rfl
  · have := Int.toNat_of_nonneg (Int.le_trans (by decide) positive)
    simpa using this
  · refine Sound.integrity ⟨?_, Nat.zero_le _, List.Sublist.slnil, ?_⟩ fresh
    · change 1 ≤ settings.historySize.toNat
      omega
    · intro analysis member
      cases member
  · intro id named plain
    exact ofTarget?_history plain named

/-- In a history for one analysis the second one saved evicts the first, which is then not found. -/
theorem create_integrity_of_eviction :
    let submission := Utf8.encode "\x7b\"code\": \"a\", \"language\": \"b\"\x7d".toList
    let call : Request → String → Call := fun request freshId =>
      { request, freshId, now := "", limits := { depth := 9 }, refusalDepth := 9 }
    let first := call ⟨"POST", "/analyze", submission, none⟩ "1"
    let second := call ⟨"POST", "/analyze", submission, none⟩ "2"
    let get := call ⟨"GET", "/history/1", [], none⟩ "3"
    let settings : Settings := ⟨100, 1⟩
    let start : Service := ⟨100, ⟨1, []⟩⟩
    1 ≤ settings.historySize ∧ ([first, second].map (·.freshId)).Nodup ∧
      create settings = .ok start ∧ Integrity start [first, second] ∧
      start.Saves first "1" ∧ (start.next first).Evicts second "1" ∧
      (start.run [first, second]).Misses get := by
  intro submission call first second get settings start
  have positive : 1 ≤ settings.historySize := by decide
  have fresh : ([first, second].map (·.freshId)).Nodup := by decide
  have integrity : Integrity start [first, second] := by
    obtain ⟨⟨created, same, -, -, integrity⟩, -⟩ := create_integrity positive fresh
    cases same
    exact integrity
  have saves : start.Saves first "1" :=
    ⟨⟨by decide +kernel, by decide +kernel⟩, by decide +kernel, by decide +kernel⟩
  have evicts : (start.next first).Evicts second "1" :=
    ⟨⟨"2", ⟨by decide +kernel, by decide +kernel⟩, by decide +kernel, by decide +kernel⟩,
      by decide +kernel, by decide +kernel⟩
  obtain ⟨analysis, same, back⟩ := integrity.givesBack [] first [second] "1" rfl saves
  rw [← same] at evicts
  have missed : get.Asks (.analysis analysis.id) "GET" := by
    rw [same]
    exact ⟨by decide +kernel, by decide +kernel⟩
  exact ⟨positive, fresh, rfl, integrity, saves, same ▸ evicts,
    back.misses ⟨[], second, [], rfl, .inr evicts⟩ get missed⟩

/-- An analysis that was saved and neither deleted nor evicted, and cannot be got nor listed. -/
theorem unshown_of_surrogate_in_language :
    let submission := Utf8.encode "\x7b\"code\": \"x\", \"language\": \"\\ud800\"\x7d".toList
    let call : Request → String → Call := fun request freshId =>
      { request, freshId, now := "", limits := { depth := 9 }, refusalDepth := 9 }
    let post := call ⟨"POST", "/analyze", submission, none⟩ "1"
    let get := call ⟨"GET", "/history/1", [], none⟩ "2"
    let list := call ⟨"GET", "/history", [], none⟩ "3"
    let start : Service := ⟨100, ⟨1, []⟩⟩
    start.Saves post "1" ∧ get.Asks (.analysis "1") "GET" ∧ list.Asks .history "GET" ∧
      (start.next post).Breaks get ∧ (start.next post).Breaks list := by
  intro submission call post get list start
  have saves : start.Saves post "1" :=
    ⟨⟨by decide +kernel, by decide +kernel⟩, by decide +kernel, by decide +kernel⟩
  have breaks : ∀ asking : Call,
      ((start.next post).dispatch asking.context asking.request).2.body.isSendable
        asking.context.refusalDepth = false → (start.next post).Breaks asking := by
    intro asking unsendable
    apply breaks_of_reply
    rw [reply, sent_of_not_isSendable unsendable]
  exact ⟨saves, ⟨by decide +kernel, by decide +kernel⟩, ⟨by decide +kernel, by decide +kernel⟩,
    breaks get (by decide +kernel), breaks list (by decide +kernel)⟩

end LineLint.Service
