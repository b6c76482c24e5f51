import LineLint.Proofs.History.Contents
import LineLint.Proofs.Service.Effect

namespace LineLint.Service

open Json

def next (service : Service) (call : Call) : Service :=
  (service.handle call.context call.request).1

def answer (service : Service) (call : Call) : Response :=
  (service.handle call.context call.request).2

def run (service : Service) (calls : List Call) : Service := calls.foldl next service

/-- The call submits a code and is answered with the identifier under which it is remembered. -/
def Saves (service : Service) (call : Call) (id : String) : Prop :=
  call.Asks .analyze "POST" ∧ (service.answer call).status = 200 ∧
    (service.answer call).body.text? "id" = some id

def Deletes (service : Service) (call : Call) (id : String) : Prop :=
  call.Asks (.analysis id) "DELETE" ∧ (service.answer call).status = 200

/-- The call saves an analysis when the history is full and this is the identifier of its oldest. -/
def Evicts (service : Service) (call : Call) (id : String) : Prop :=
  (∃ saved, service.Saves call saved) ∧ service.history.size = service.history.capacity ∧
    service.history.analyses.getLast?.map (·.id) = some id

def Drops (service : Service) (call : Call) (id : String) : Prop :=
  service.Deletes call id ∨ service.Evicts call id

variable {service : Service} {call : Call} {id : String}

/-- The reply to a call, as it is sent. -/
def reply (service : Service) (call : Call) : Reply :=
  (service.dispatch call.context call.request).2.sent call.context.refusalDepth

theorem status_answer (service : Service) (call : Call) :
    (service.answer call).status = (service.reply call).status := by
  rw [answer, status_handle, reply]

theorem body_answer (service : Service) (call : Call) :
    (service.answer call).body = (service.reply call).body := by
  rw [answer, body_handle, reply]

theorem exists_effect (service : Service) (call : Call) :
    ∃ after reply, Effect service call after reply ∧ service.next call = after ∧
      (service.answer call).status = reply.status ∧ (service.answer call).body = reply.body :=
  ⟨_, _, effect_handle service call, fst_handle service call.context call.request,
    service.status_answer call, service.body_answer call⟩

theorem Saves.exists_analysis (saves : service.Saves call id) :
    ∃ code language report, id = call.freshId ∧ call.Submits code language ∧
      analyzeStandard code language = .ok report ∧
      (service.answer call).body = .value (.object (analysisMembers (some id) none report)) ∧
      service.next call =
        { service with history := service.history.save (call.analysis code language report) } := by
  obtain ⟨after, reply, effect, next, status, body⟩ := service.exists_effect call
  rw [Saves, status, body] at saves
  obtain ⟨asked, succeeds, shown⟩ := saves
  cases effect with
  | @saved code language report _ submitted analyzed =>
      change some call.freshId = some id at shown
      cases shown
      exact ⟨code, language, report, rfl, submitted, analyzed, body, next⟩
  | unsaved =>
      change none = some id at shown
      cases shown
  | deleted other => cases (asked.eq other).1
  | read reading =>
      rw [asked.2] at reading
      exact absurd reading (by decide)
  | refused listed =>
      obtain rfl : _ = 200 := succeeds
      exact absurd listed (by decide)

theorem Deletes.exists_analysis (deletes : service.Deletes call id) :
    (∃ analysis ∈ service.history.analyses, analysis.id = id) ∧
      service.next call = { service with history := (service.history.delete id).1 } := by
  obtain ⟨after, reply, effect, next, status, body⟩ := service.exists_effect call
  rw [Deletes, status] at deletes
  obtain ⟨asked, succeeds⟩ := deletes
  cases effect with
  | saved other => cases (asked.eq other).1
  | unsaved other => cases (asked.eq other).1
  | deleted other found =>
      cases (asked.eq other).1
      refine ⟨?_, next⟩
      by_contra absent
      push Not at absent
      rw [History.get?_eq_none_iff.mpr absent] at found
      cases found
  | read reading =>
      rw [asked.2] at reading
      exact absurd reading (by decide)
  | refused listed =>
      obtain rfl : _ = 200 := succeeds
      exact absurd listed (by decide)

/-- Nothing changes unless the answer says that an analysis was saved or deleted. -/
theorem next_eq_self (unsaved : ∀ id, ¬ service.Saves call id)
    (undeleted : ∀ id, ¬ service.Deletes call id) : service.next call = service := by
  obtain ⟨after, reply, effect, next, status, body⟩ := service.exists_effect call
  cases effect with
  | saved asked => exact absurd ⟨asked, status, body ▸ rfl⟩ (unsaved call.freshId)
  | @deleted id asked => exact absurd ⟨asked, status⟩ (undeleted id)
  | unsaved | read | refused => exact next

theorem exists_report_of_warning
    (warned : (service.answer call).body.text? "warning" = some notSaved) :
    ∃ code language report, call.Submits code language ∧
      analyzeStandard code language = .ok report ∧ (service.answer call).status = 200 ∧
      (service.answer call).body =
        .value (.object (analysisMembers none (some notSaved) report)) ∧
      service.next call = service := by
  obtain ⟨after, reply, effect, next, status, body⟩ := service.exists_effect call
  rw [body] at warned
  cases effect with
  | @unsaved code language report _ submitted analyzed =>
      exact ⟨code, language, report, submitted, analyzed, status, body, next⟩
  | saved =>
      change none = some notSaved at warned
      cases warned
  | deleted =>
      change none = some notSaved at warned
      cases warned
  | read _ _ silent =>
      rw [silent] at warned
      cases warned
  | refused _ silent =>
      rw [silent] at warned
      cases warned

theorem status_answer_mem (service : Service) (call : Call) :
    (service.answer call).status ∈ [200, 400, 404, 405, 413, 422, 500] := by
  obtain ⟨after, reply, effect, next, status, body⟩ := service.exists_effect call
  rw [status]
  cases effect with
  | saved | unsaved | deleted => exact List.mem_cons_self
  | read _ listed =>
      have among : ∀ status ∈ [200, 404, 500], status ∈ [200, 400, 404, 405, 413, 422, 500] := by
        decide
      exact among _ listed
  | refused listed => exact List.mem_cons_of_mem 200 listed

theorem reply_get {get : Call} (asked : get.Asks (.analysis id) "GET") :
    service.reply get = (service.getAnalysis id).sent get.context.refusalDepth := by
  simp only [reply, dispatch, asked.1, asked.2]

theorem reply_list {list : Call} (asked : list.Asks .history "GET") :
    service.reply list = (service.listHistory list.context).sent list.context.refusalDepth := by
  simp only [reply, dispatch, asked.1, asked.2]

/-- What holds of a service to whose calls these identifiers were given, in this order. -/
structure Sound (issued : List String) (service : Service) : Prop where
  positive : 1 ≤ service.history.capacity
  bounded : service.history.size ≤ service.history.capacity
  newestFirst : (service.history.analyses.map (·.id)).Sublist issued.reverse
  right : ∀ analysis ∈ service.history.analyses,
    ∃ code, analysis.code = some code ∧ analyzeStandard code analysis.language = .ok analysis.report

variable {issued : List String} {analysis : Analysis}

theorem Sound.next (sound : service.Sound issued) (call : Call) :
    (service.next call).Sound (issued ++ [call.freshId]) := by
  obtain ⟨after, reply, effect, next, -, -⟩ := service.exists_effect call
  have order : (service.history.analyses.map (·.id)).Sublist
      (issued ++ [call.freshId]).reverse := by
    rw [List.reverse_append]
    exact sound.newestFirst.cons call.freshId
  rw [next]
  cases effect with
  | @saved code language report asked submitted analyzed =>
      refine ⟨sound.positive, History.size_save_le _ _, ?_, ?_⟩
      · rw [List.reverse_append]
        exact ((List.take_sublist _ _).map _).trans (sound.newestFirst.cons_cons call.freshId)
      · intro analysis member
        rcases List.mem_cons.mp (List.mem_of_mem_take member) with rfl | earlier
        · exact ⟨code, rfl, analyzed⟩
        · exact sound.right analysis earlier
  | @deleted id =>
      have part : (service.history.delete id).1.analyses.Sublist service.history.analyses :=
        List.eraseP_sublist
      refine ⟨sound.positive, Nat.le_trans part.length_le sound.bounded,
        (part.map _).trans order, ?_⟩
      intro analysis member
      exact sound.right analysis (List.mem_of_mem_eraseP member)
  | unsaved | read | refused => exact ⟨sound.positive, sound.bounded, order, sound.right⟩

theorem Sound.distinct (sound : service.Sound issued) (fresh : issued.Nodup) :
    service.history.Distinct :=
  sound.newestFirst.nodup (List.nodup_reverse.mpr fresh)

@[simp] theorem run_nil (service : Service) : service.run [] = service := rfl

@[simp] theorem run_cons (service : Service) (call : Call) (calls : List Call) :
    service.run (call :: calls) = (service.next call).run calls := by
  simp only [run, List.foldl_cons]

theorem run_append (service : Service) (first second : List Call) :
    service.run (first ++ second) = (service.run first).run second := List.foldl_append

theorem Sound.run (sound : service.Sound issued) (calls : List Call) :
    (service.run calls).Sound (issued ++ calls.map (·.freshId)) := by
  induction calls generalizing service issued with
  | nil =>
      rw [List.map_nil, List.append_nil, run_nil]
      exact sound
  | cons call rest induction =>
      rw [List.map_cons, List.append_cons, run_cons]
      exact induction (sound.next call)

theorem mem_next_of_not_drops (sound : service.Sound issued)
    (fresh : (issued ++ [call.freshId]).Nodup)
    (member : analysis ∈ service.history.analyses) (spared : ¬ service.Drops call analysis.id) :
    analysis ∈ (service.next call).history.analyses := by
  by_cases saves : ∃ id, service.Saves call id
  · obtain ⟨id, saved⟩ := saves
    obtain ⟨code, language, report, -, -, -, -, next⟩ := saved.exists_analysis
    rw [next]
    rcases Nat.lt_or_eq_of_le sound.bounded with room | full
    · rw [History.analyses_save_of_lt room]
      exact List.mem_cons_of_mem _ member
    · rw [History.analyses_save_of_eq sound.positive full]
      rcases List.eq_nil_or_concat service.history.analyses with empty | ⟨newer, oldest, split⟩
      · rw [empty] at member
        cases member
      · rw [split, List.concat_eq_append] at member ⊢
        rw [List.dropLast_concat]
        rcases List.mem_append.mp member with among | last
        · exact List.mem_cons_of_mem _ among
        · have oldestIs : service.history.analyses.getLast? = some analysis := by
            rw [split, List.concat_eq_append, List.mem_singleton.mp last]
            exact List.getLast?_concat
          exact absurd (.inr ⟨⟨id, saved⟩, full, by rw [oldestIs]; rfl⟩) spared
  · by_cases deletes : ∃ id, service.Deletes call id
    · obtain ⟨id, deleted⟩ := deletes
      rw [deleted.exists_analysis.2]
      refine (sound.distinct fresh.of_append_left).mem_delete_iff.mpr ⟨member, ?_⟩
      rintro rfl
      exact spared (.inl deleted)
    · rw [next_eq_self (not_exists.mp saves) (not_exists.mp deletes)]
      exact member

def Lacks (service : Service) (id : String) : Prop :=
  ∀ analysis ∈ service.history.analyses, analysis.id ≠ id

theorem Lacks.next (lacks : service.Lacks id) (fresh : call.freshId ≠ id) :
    (service.next call).Lacks id := by
  obtain ⟨after, reply, effect, next, -, -⟩ := service.exists_effect call
  rw [next]
  cases effect with
  | saved =>
      intro analysis member
      rcases List.mem_cons.mp (List.mem_of_mem_take member) with rfl | earlier
      · exact fresh
      · exact lacks analysis earlier
  | deleted => exact fun analysis member => lacks analysis (List.mem_of_mem_eraseP member)
  | unsaved | read | refused => exact lacks

theorem lacks_next_of_drops (sound : service.Sound issued) (fresh : issued.Nodup)
    (other : call.freshId ≠ id) (drops : service.Drops call id) :
    (service.next call).Lacks id := by
  have distinct := sound.distinct fresh
  rcases drops with deleted | ⟨⟨saved, saves⟩, full, oldest⟩
  · rw [deleted.exists_analysis.2]
    intro analysis member
    exact (distinct.mem_delete_iff.mp member).2
  · obtain ⟨code, language, report, -, -, -, -, next⟩ := saves.exists_analysis
    rw [next]
    intro analysis member
    rw [History.analyses_save_of_eq sound.positive full] at member
    rcases List.mem_cons.mp member with rfl | among
    · exact other
    · obtain ⟨last, isLast, rfl⟩ := Option.map_eq_some_iff.mp oldest
      obtain ⟨newer, split⟩ := List.getLast?_eq_some_iff.mp isLast
      rw [History.Distinct, split, List.map_append, List.nodup_append] at distinct
      rw [split, List.dropLast_concat] at among
      exact distinct.2.2 analysis.id (List.mem_map_of_mem among) last.id (by simp)

theorem mem_run_of_not_drops {calls : List Call} (sound : service.Sound issued)
    (fresh : (issued ++ calls.map (·.freshId)).Nodup)
    (member : analysis ∈ service.history.analyses)
    (spared : ∀ earlier other later, calls = earlier ++ other :: later →
      ¬ (service.run earlier).Drops other analysis.id) :
    analysis ∈ (service.run calls).history.analyses := by
  induction calls generalizing service issued with
  | nil => exact member
  | cons call rest induction =>
      rw [List.map_cons, List.append_cons] at fresh
      rw [run_cons]
      apply induction (sound.next call) fresh
      · exact mem_next_of_not_drops sound fresh.of_append_left member (spared [] call rest rfl)
      · intro earlier other later split
        have kept := spared (call :: earlier) other later (by rw [split, List.cons_append])
        rwa [run_cons] at kept

theorem Lacks.run {calls : List Call} (lacks : service.Lacks id)
    (fresh : ∀ call ∈ calls, call.freshId ≠ id) : (service.run calls).Lacks id := by
  induction calls generalizing service with
  | nil => exact lacks
  | cons call rest induction =>
      rw [List.forall_mem_cons] at fresh
      rw [run_cons]
      exact induction (lacks.next fresh.1) fresh.2

theorem lacks_run_of_drops {calls earlier later : List Call} {other : Call}
    (sound : service.Sound issued) (fresh : (issued ++ calls.map (·.freshId)).Nodup)
    (given : id ∈ issued) (split : calls = earlier ++ other :: later)
    (drops : (service.run earlier).Drops other id) : (service.run calls).Lacks id := by
  have apart : ∀ call ∈ calls, call.freshId ≠ id := by
    rintro call member rfl
    exact (List.nodup_append.mp fresh).2.2 _ given _ (List.mem_map_of_mem member) rfl
  have before : (issued ++ earlier.map (·.freshId)).Nodup := by
    rw [split, List.map_append, ← List.append_assoc] at fresh
    exact fresh.of_append_left
  simp only [split, List.forall_mem_append, List.forall_mem_cons] at apart
  rw [split, run_append, run_cons]
  exact (lacks_next_of_drops (sound.run earlier) before apart.2.1 drops).run apart.2.2

end LineLint.Service
