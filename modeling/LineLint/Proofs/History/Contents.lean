import LineLint.History
import Mathlib.Data.List.Forall2
import Mathlib.Data.List.Nodup

namespace LineLint.History

variable {history : History} {analysis : Analysis} {id : String}

theorem analyses_save_of_lt (room : history.size < history.capacity) :
    (history.save analysis).analyses = analysis :: history.analyses :=
  List.take_of_length_le room

theorem analyses_save_of_eq (positive : 1 ≤ history.capacity)
    (full : history.size = history.capacity) :
    (history.save analysis).analyses = analysis :: history.analyses.dropLast := by
  obtain ⟨others, capacity⟩ := Nat.exists_eq_add_of_le' positive
  have size : history.analyses.length - 1 = others := by
    rw [← size, full, capacity, Nat.add_sub_cancel]
  rw [save, capacity, List.take_succ_cons, List.dropLast_eq_take, size]

theorem mem_save (positive : 1 ≤ history.capacity) :
    analysis ∈ (history.save analysis).analyses := by
  obtain ⟨others, capacity⟩ := Nat.exists_eq_add_of_le' positive
  rw [save, capacity, List.take_succ_cons]
  exact List.mem_cons_self

theorem exists_evicted (bounded : history.size ≤ history.capacity) (analysis : Analysis) :
    ∃ evicted, analysis :: history.analyses = (history.save analysis).analyses ++ evicted ∧
      evicted.length ≤ 1 := by
  refine ⟨(analysis :: history.analyses).drop history.capacity,
    (List.take_append_drop _ _).symm, ?_⟩
  rw [List.length_drop, List.length_cons]
  rw [size] at bounded
  omega

/-- The identifiers tell the analyses of a history apart. -/
def Distinct (history : History) : Prop := (history.analyses.map (·.id)).Nodup

theorem Distinct.eq_of_id_eq {other : Analysis} (distinct : history.Distinct)
    (member : analysis ∈ history.analyses) (otherMember : other ∈ history.analyses)
    (same : analysis.id = other.id) : analysis = other :=
  List.inj_on_of_nodup_map distinct member otherMember same

theorem get?_eq_none_iff :
    history.get? id = none ↔ ∀ analysis ∈ history.analyses, analysis.id ≠ id := by
  simp [get?]

theorem Distinct.get?_eq_some_iff (distinct : history.Distinct) :
    history.get? id = some analysis ↔ analysis ∈ history.analyses ∧ analysis.id = id := by
  constructor
  · intro found
    exact ⟨List.mem_of_find?_eq_some found, by simpa using List.find?_some found⟩
  · rintro ⟨member, same⟩
    cases found : history.get? id with
    | none => exact absurd same (get?_eq_none_iff.mp found analysis member)
    | some other =>
        have otherSame : other.id = id := by simpa using List.find?_some found
        rw [distinct.eq_of_id_eq member (List.mem_of_find?_eq_some found)
          (same.trans otherSame.symm)]

theorem delete_of_absent (absent : ∀ analysis ∈ history.analyses, analysis.id ≠ id) :
    history.delete id = (history, false) := by
  rw [delete, get?_eq_none_iff.mpr absent, List.eraseP_of_forall_not (by simpa using absent)]
  rfl

private theorem eraseP_eq_filter_of_nodup {analyses : List Analysis}
    (distinct : (analyses.map (·.id)).Nodup) :
    analyses.eraseP (·.id == id) = analyses.filter (·.id ≠ id) := by
  induction analyses with
  | nil => rfl
  | cons first rest induction =>
      obtain ⟨apart, distinct⟩ := List.nodup_cons.mp distinct
      by_cases same : first.id = id
      · -- Nothing else goes: the first analysis is the only one with this identifier.
        have others : ∀ other ∈ rest, decide (other.id ≠ id) = true := by
          intro other member
          rw [decide_eq_true_iff]
          intro otherSame
          exact apart (List.mem_map.mpr ⟨other, member, otherSame.trans same.symm⟩)
        rw [List.eraseP_cons_of_pos (by simpa using same),
          List.filter_cons_of_neg (by simpa using same), List.filter_eq_self.mpr others]
      · rw [List.eraseP_cons_of_neg (by simpa using same),
          List.filter_cons_of_pos (by simpa using same), induction distinct]

theorem Distinct.delete_of_mem (distinct : history.Distinct)
    (member : analysis ∈ history.analyses) :
    history.delete analysis.id =
      ({ history with analyses := history.analyses.filter (·.id ≠ analysis.id) }, true) := by
  rw [delete, distinct.get?_eq_some_iff.mpr ⟨member, rfl⟩, eraseP_eq_filter_of_nodup distinct]
  rfl

theorem Distinct.mem_delete_iff (distinct : history.Distinct) :
    analysis ∈ (history.delete id).1.analyses ↔
      analysis ∈ history.analyses ∧ analysis.id ≠ id := by
  change analysis ∈ history.analyses.eraseP (·.id == id) ↔ _
  rw [eraseP_eq_filter_of_nodup distinct, List.mem_filter, decide_eq_true_iff]

/-- One analysis shows all of another but its code. -/
structure Abridges (listed analysis : Analysis) : Prop where
  id : listed.id = analysis.id
  code : listed.code = none
  language : listed.language = analysis.language
  bugs : listed.report.bugs = analysis.report.bugs
  summary : listed.report.summary = analysis.report.summary
  createdAt : listed.createdAt = analysis.createdAt

theorem abridges_withoutCode (analysis : Analysis) : Abridges analysis.withoutCode analysis :=
  ⟨rfl, rfl, rfl, rfl, rfl, rfl⟩

theorem exists_recent (history : History) (limit : Int) :
    ∃ newest, List.Forall₂ Abridges (history.recent limit) newest ∧
      newest <+: history.analyses ∧ (newest.length : Int) = min (max limit 0) history.size := by
  refine ⟨history.analyses.take limit.toNat, ?_, List.take_prefix _ _, ?_⟩
  · rw [recent, List.forall₂_map_left_iff, List.forall₂_same]
    exact fun analysis _ => abridges_withoutCode analysis
  · rw [List.length_take, size]
    omega

end LineLint.History
