import LineLint.Proofs.History.Contents
import Mathlib.Data.List.Induction

namespace LineLint.History

inductive Operation
  | save (analysis : Analysis)
  | delete (id : String)
  | get (id : String)
  | recent (limit : Int)
  deriving Repr, DecidableEq

inductive Answer
  | saved (id : String)
  | deleted (found : Bool)
  | found (analysis : Option Analysis)
  | listed (analyses : List Analysis)
  deriving Repr, DecidableEq

def perform (history : History) : Operation → History × Answer
  | .save analysis => (history.save analysis, .saved analysis.id)
  | .delete id => ((history.delete id).1, .deleted (history.delete id).2)
  | .get id => (history, .found (history.get? id))
  | .recent limit => (history, .listed (history.recent limit))

abbrev Log := List Operation

def run (history : History) (log : Log) : History :=
  log.foldl (fun history operation => (history.perform operation).1) history

namespace Log

def saved (log : Log) : List Analysis :=
  log.filterMap fun operation =>
    match operation with
    | .save analysis => some analysis
    | _ => none

/-- No identifier is given twice. -/
def Fresh (log : Log) : Prop := (log.saved.map (·.id)).Nodup

instance (log : Log) : Decidable log.Fresh := inferInstanceAs (Decidable (List.Nodup _))

/-- What a history of this capacity remembers after the log, if it was empty before. -/
def live (capacity : Nat) (log : Log) : List Analysis := (run ⟨capacity, []⟩ log).analyses

/-- The operation, next after `before`, the save of the analysis and `since`, does not end its
life: it does not delete the analysis while it is live, and it does not save the last of as many
newer live ones as the history can hold. -/
def Spares (capacity : Nat) (before : Log) (analysis : Analysis) (since : Log) : Operation → Prop
  | .delete id => id = analysis.id → analysis ∉ live capacity (before ++ .save analysis :: since)
  | .save newest =>
      (newest :: (live capacity (before ++ .save analysis :: since)).filter
        (· ∈ since.saved)).length < capacity
  | .get _ | .recent _ => True

/-- The analysis was saved, and every later operation has spared it. -/
def Keeps (capacity : Nat) (log : Log) (analysis : Analysis) : Prop :=
  ∃ before since, log = before ++ .save analysis :: since ∧
    ∀ earlier operation later, since = earlier ++ operation :: later →
      Spares capacity before analysis earlier operation

variable {capacity : Nat} {log before since : Log} {analysis newest : Analysis}
  {operation : Operation}

@[simp] theorem saved_append (first second : Log) :
    (first ++ second).saved = first.saved ++ second.saved := List.filterMap_append

@[simp] theorem saved_cons_save (log : Log) (analysis : Analysis) :
    saved (.save analysis :: log) = analysis :: log.saved := rfl

theorem Fresh.of_append {later : Log} (fresh : (log ++ later).Fresh) : log.Fresh := by
  rw [Fresh, saved_append, List.map_append] at fresh
  exact fresh.of_append_left

theorem live_concat (log : Log) (operation : Operation) :
    live capacity (log ++ [operation]) =
      ((run ⟨capacity, []⟩ log).perform operation).1.analyses := by
  rw [live, run, List.foldl_append]
  rfl

@[simp] theorem capacity_run (history : History) (log : Log) :
    (history.run log).capacity = history.capacity := by
  induction log generalizing history with
  | nil => rfl
  | cons operation rest induction =>
      rw [run, List.foldl_cons]
      refine (induction _).trans ?_
      cases operation <;> rfl

theorem live_sublist_saved (capacity : Nat) (log : Log) :
    (live capacity log).Sublist log.saved.reverse := by
  induction log using List.reverseRecOn with
  | nil => exact List.Sublist.slnil
  | append_singleton log operation induction =>
      rw [live_concat, saved_append, List.reverse_append]
      cases operation with
      | save analysis =>
          exact (List.take_sublist _ _).trans (induction.cons_cons analysis)
      | delete id => exact List.eraseP_sublist.trans induction
      | get | recent => exact induction

theorem length_live_le (capacity : Nat) (log : Log) : (live capacity log).length ≤ capacity := by
  induction log using List.reverseRecOn with
  | nil => exact Nat.zero_le capacity
  | append_singleton log operation induction =>
      rw [live_concat]
      cases operation with
      | save analysis =>
          have bound := size_save_le (run ⟨capacity, []⟩ log) analysis
          rwa [capacity_run] at bound
      | delete id => exact Nat.le_trans List.eraseP_sublist.length_le induction
      | get | recent => exact induction

theorem Fresh.nodup_saved (fresh : log.Fresh) : log.saved.Nodup := List.Nodup.of_map _ fresh

theorem Fresh.distinct (fresh : log.Fresh) : (run ⟨capacity, []⟩ log).Distinct := by
  have order : ((live capacity log).map (·.id)).Sublist (log.saved.map (·.id)).reverse := by
    rw [← List.map_reverse]
    exact (live_sublist_saved capacity log).map _
  exact order.nodup (List.nodup_reverse.mpr fresh)

private theorem sublist_sides {α : Type} {a : α} {left right before after : List α}
    (part : (left ++ a :: right).Sublist (before ++ a :: after))
    (distinct : (before ++ a :: after).Nodup) : left.Sublist before ∧ right.Sublist after := by
  have apart := List.nodup_append.mp distinct
  have absent : a ∉ after := (List.nodup_cons.mp apart.2.1).1
  have elsewhere : a ∉ before := fun member => apart.2.2 a member a List.mem_cons_self rfl
  obtain ⟨first, second, split, inBefore, inAfter⟩ := List.sublist_append_iff.mp part
  rcases List.append_eq_append_iff.mp split with ⟨middle, rfl, tail⟩ | ⟨middle, rfl, tail⟩
  · -- The element itself cannot belong to the part of `before`.
    cases middle with
    | nil =>
        rw [List.nil_append] at tail
        subst tail
        exact ⟨by simpa using inBefore, List.cons_sublist_cons.mp inAfter⟩
    | cons x middle =>
        obtain ⟨rfl, -⟩ := List.cons.inj tail
        exact absurd (inBefore.subset (by simp)) elsewhere
  · subst tail
    cases middle with
    | nil => exact ⟨by simpa using inBefore, List.cons_sublist_cons.mp inAfter⟩
    | cons x middle =>
        rcases List.sublist_cons_iff.mp inAfter with inside | ⟨rest, same, inside⟩
        · exact absurd (inside.subset (by simp)) absent
        · obtain ⟨-, rfl⟩ := List.cons.inj same
          exact absurd (inside.subset (by simp)) absent

/-- The live analyses before one in the list are those that were saved after it. -/
theorem Fresh.exists_live_eq (fresh : log.Fresh) (split : log = before ++ .save analysis :: since)
    (member : analysis ∈ live capacity log) :
    ∃ older, live capacity log =
        (live capacity log).filter (· ∈ since.saved) ++ analysis :: older ∧
      analysis ∉ since.saved := by
  have saved : log.saved.reverse =
      since.saved.reverse ++ analysis :: before.saved.reverse := by
    rw [split, saved_append, saved_cons_save]
    simp
  have distinct : (since.saved.reverse ++ analysis :: before.saved.reverse).Nodup :=
    saved ▸ List.nodup_reverse.mpr fresh.nodup_saved
  have apart := List.nodup_append.mp distinct
  have absent : analysis ∉ since.saved := fun later =>
    apart.2.2 analysis (List.mem_reverse.mpr later) analysis List.mem_cons_self rfl
  obtain ⟨newer, older, parts⟩ := List.append_of_mem member
  have order := live_sublist_saved capacity log
  rw [parts, saved] at order
  obtain ⟨inSince, inBefore⟩ := sublist_sides order distinct
  have kept : newer.filter (· ∈ since.saved) = newer := by
    rw [List.filter_eq_self]
    intro other member
    exact decide_eq_true (List.mem_reverse.mp (inSince.subset member))
  have dropped : older.filter (· ∈ since.saved) = [] := by
    rw [List.filter_eq_nil_iff]
    intro other member
    rw [decide_eq_true_iff]
    intro later
    exact apart.2.2 other (List.mem_reverse.mpr later) other
      (List.mem_cons_of_mem _ (inBefore.subset member)) rfl
  refine ⟨older, ?_, absent⟩
  rw [parts, List.filter_append, List.filter_cons_of_neg (by simpa using absent), kept, dropped,
    List.append_nil]

private theorem mem_take_append_cons_iff {α : Type} {a : α} {left right : List α} {n : Nat}
    (absent : a ∉ left) : a ∈ (left ++ a :: right).take n ↔ left.length < n := by
  rw [List.take_append, List.mem_append]
  constructor
  · rintro (early | late)
    · exact absurd (List.mem_of_mem_take early) absent
    · by_contra short
      rw [Nat.sub_eq_zero_of_le (Nat.le_of_not_lt short), List.take_zero] at late
      cases late
  · intro room
    obtain ⟨k, rfl⟩ := Nat.exists_eq_add_of_lt room
    right
    rw [Nat.add_assoc, Nat.add_sub_cancel_left, List.take_succ_cons]
    exact List.mem_cons_self

/-- One more operation leaves an analysis live exactly if it spares it. -/
theorem mem_live_concat_iff (fresh : (log ++ [operation]).Fresh)
    (split : log = before ++ .save analysis :: since) :
    analysis ∈ live capacity (log ++ [operation]) ↔
      analysis ∈ live capacity log ∧ Spares capacity before analysis since operation := by
  have known : analysis ∈ log.saved := by
    rw [split]
    simp
  rw [live_concat]
  cases operation with
  | save newest =>
      have other : analysis ≠ newest := by
        rintro rfl
        have distinct := fresh.nodup_saved
        rw [saved_append] at distinct
        exact (List.nodup_append.mp distinct).2.2 analysis known analysis (by simp) rfl
      change analysis ∈ (newest :: live capacity log).take _ ↔ _
      rw [capacity_run, Spares, ← split]
      constructor
      · intro remains
        have member : analysis ∈ live capacity log :=
          (List.mem_cons.mp (List.mem_of_mem_take remains)).resolve_left other
        obtain ⟨older, parts, absent⟩ := fresh.of_append.exists_live_eq split member
        refine ⟨member, ?_⟩
        rw [parts, ← List.cons_append] at remains
        exact (mem_take_append_cons_iff (by simp [other, absent])).mp remains
      · rintro ⟨member, room⟩
        obtain ⟨older, parts, absent⟩ := fresh.of_append.exists_live_eq split member
        rw [parts, ← List.cons_append]
        exact (mem_take_append_cons_iff (by simp [other, absent])).mpr room
  | delete id =>
      have distinct : (run ⟨capacity, []⟩ log).Distinct := fresh.of_append.distinct
      refine distinct.mem_delete_iff.trans ?_
      rw [Spares, ← split]
      constructor
      · rintro ⟨member, other⟩
        exact ⟨member, fun same => absurd same.symm other⟩
      · rintro ⟨member, spared⟩
        exact ⟨member, fun same => spared same.symm member⟩
  | get | recent => exact (and_iff_left trivial).symm

theorem mem_live_concat (member : analysis ∈ live capacity (log ++ [operation])) :
    operation = .save analysis ∨ analysis ∈ live capacity log := by
  rw [live_concat] at member
  cases operation with
  | save newest =>
      rcases List.mem_cons.mp (List.mem_of_mem_take member) with rfl | earlier
      · exact .inl rfl
      · exact .inr earlier
  | delete id => exact .inr (List.mem_of_mem_eraseP member)
  | get | recent => exact .inr member

theorem keeps_concat (split : log = before ++ .save analysis :: since)
    (kept : ∀ earlier operation later, since = earlier ++ operation :: later →
      Spares capacity before analysis earlier operation)
    (spared : Spares capacity before analysis since operation) :
    Keeps capacity (log ++ [operation]) analysis := by
  refine ⟨before, since ++ [operation], by rw [split, List.append_assoc]; rfl, ?_⟩
  intro earlier other later parts
  rcases List.eq_nil_or_concat later with rfl | ⟨middle, last, rfl⟩
  · obtain ⟨rfl, last⟩ := List.append_inj' parts rfl
    rwa [← List.singleton_inj.mp last]
  · rw [List.concat_eq_append, ← List.cons_append, ← List.append_assoc] at parts
    exact kept earlier other middle (List.append_inj' parts rfl).1

theorem mem_live_iff (positive : 1 ≤ capacity) (fresh : log.Fresh) :
    analysis ∈ live capacity log ↔ Keeps capacity log analysis := by
  induction log using List.reverseRecOn with
  | nil =>
      constructor
      · intro member
        cases member
      · rintro ⟨before, since, split, -⟩
        simp at split
  | append_singleton log operation induction =>
      have earlier := induction fresh.of_append
      constructor
      · intro member
        rcases mem_live_concat member with rfl | before
        · exact ⟨log, [], rfl, fun _ _ _ empty => by simp at empty⟩
        · obtain ⟨before, since, split, kept⟩ := earlier.mp before
          exact keeps_concat split kept ((mem_live_concat_iff fresh split).mp member).2
      · rintro ⟨before, since, split, kept⟩
        rcases List.eq_nil_or_concat since with rfl | ⟨since, last, rfl⟩
        · obtain ⟨rfl, same⟩ := List.append_inj' split rfl
          rw [List.singleton_inj.mp same, live_concat]
          exact mem_save (by rwa [capacity_run])
        · rw [List.concat_eq_append, ← List.cons_append, ← List.append_assoc] at split
          obtain ⟨parts, same⟩ := List.append_inj' split rfl
          cases List.singleton_inj.mp same
          refine (mem_live_concat_iff fresh parts).mpr ⟨earlier.mpr ⟨before, since, parts, ?_⟩, ?_⟩
          · intro first other later rest
            exact kept first other (later ++ [operation]) (by simp [rest])
          · exact kept since operation [] (by simp)

end Log

/-- The history is what a log of this kind leaves: never too many analyses, in the order in which
they were saved, and those alone that the log keeps. -/
structure Reflects (history : History) (log : Log) : Prop where
  bounded : history.size ≤ history.capacity
  newestFirst : history.analyses.Sublist log.saved.reverse
  live_iff : ∀ analysis, analysis ∈ history.analyses ↔ log.Keeps history.capacity analysis

/-- What the next operation does and answers, whichever it is. -/
structure Serves (history : History) : Prop where
  save : ∀ analysis, ∃ evicted,
    analysis :: history.analyses = (history.perform (.save analysis)).1.analyses ++ evicted ∧
      evicted.length ≤ 1 ∧ analysis ∈ (history.perform (.save analysis)).1.analyses
  get : ∀ analysis ∈ history.analyses,
    history.perform (.get analysis.id) = (history, .found (some analysis))
  get_absent : ∀ id, (∀ analysis ∈ history.analyses, analysis.id ≠ id) →
    history.perform (.get id) = (history, .found none)
  delete : ∀ analysis ∈ history.analyses,
    history.perform (.delete analysis.id) =
      ({ history with analyses := history.analyses.filter (·.id ≠ analysis.id) }, .deleted true)
  delete_absent : ∀ id, (∀ analysis ∈ history.analyses, analysis.id ≠ id) →
    history.perform (.delete id) = (history, .deleted false)
  recent : ∀ limit, ∃ listed newest,
    history.perform (.recent limit) = (history, .listed listed) ∧
      List.Forall₂ Abridges listed newest ∧ newest <+: history.analyses ∧
      (newest.length : Int) = min (max limit 0) history.size

variable {history : History} {log : Log}

theorem Distinct.serves (distinct : history.Distinct) (positive : 1 ≤ history.capacity)
    (bounded : history.size ≤ history.capacity) : history.Serves where
  save := fun analysis => by
    obtain ⟨evicted, split, count⟩ := exists_evicted bounded analysis
    exact ⟨evicted, split, count, mem_save positive⟩
  get := fun analysis member => by
    rw [perform, distinct.get?_eq_some_iff.mpr ⟨member, rfl⟩]
  get_absent := fun id absent => by
    rw [perform, get?_eq_none_iff.mpr absent]
  delete := fun analysis member => by
    rw [perform, distinct.delete_of_mem member]
  delete_absent := fun id absent => by
    rw [perform, delete_of_absent absent]
  recent := fun limit => by
    obtain ⟨newest, abridged, order, count⟩ := history.exists_recent limit
    exact ⟨_, newest, rfl, abridged, order, count⟩

theorem run_refines_log {capacity : Int} (positive : 1 ≤ capacity) (fresh : log.Fresh) :
    ∃ start, create capacity = .ok start ∧ ((start.run log).capacity : Int) = capacity ∧
      (start.run log).Reflects log ∧ (start.run log).Serves := by
  refine ⟨⟨capacity.toNat, []⟩, by rw [create, if_neg (by omega)], ?_⟩
  have size : (run ⟨capacity.toNat, []⟩ log).capacity = capacity.toNat := Log.capacity_run _ _
  have room : 1 ≤ capacity.toNat := by omega
  have bounded : (run ⟨capacity.toNat, []⟩ log).size ≤ (run ⟨capacity.toNat, []⟩ log).capacity := by
    rw [size]
    exact Log.length_live_le _ log
  refine ⟨by rw [size]; omega, ⟨bounded, Log.live_sublist_saved _ log, ?_⟩,
    fresh.distinct.serves (by rwa [size]) bounded⟩
  intro analysis
  rw [size]
  exact Log.mem_live_iff room fresh

/-- Of four analyses in a history for two, one is deleted and one is pushed out. -/
theorem run_refines_log_of_four_saves :
    let entry : String → Analysis := fun id => ⟨id, some "", "css", .empty, ""⟩
    let log : Log :=
      [.save (entry "a"), .save (entry "b"), .delete "a", .save (entry "c"), .recent 1,
        .save (entry "d"), .get "b"]
    (1 : Int) ≤ 2 ∧ log.Fresh ∧
      ∃ start, create 2 = .ok start ∧ (start.run log).analyses = [entry "d", entry "c"] ∧
        (start.run log).Reflects log ∧ (start.run log).Serves := by
  intro entry log
  have positive : (1 : Int) ≤ 2 := by decide
  have fresh : log.Fresh := by decide
  obtain ⟨start, created, -, reflects, serves⟩ := run_refines_log positive fresh
  cases created
  exact ⟨positive, fresh, _, rfl, by decide, reflects, serves⟩

end LineLint.History
