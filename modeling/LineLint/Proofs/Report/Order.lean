import LineLint.Proofs.Analysis

namespace LineLint

/-- On an earlier line, or on the same line with a smaller ordinal. -/
def Precedes (entry later : Bug × Nat) : Prop :=
  entry.1.line < later.1.line ∨ entry.1.line = later.1.line ∧ entry.2 < later.2

/-- The bugs of a report, each with the ordinal of its identifier. -/
structure Ordinals (language : String) (findings : List Finding) (report : Report)
    (issued : List (Bug × Nat)) : Prop where
  bugs : issued.map Prod.fst = report.bugs
  once : (issued.map Prod.snd).Perm (List.range report.bugs.length)
  id : ∀ entry ∈ issued,
    entry.1.id = language ++ "-" ++ toString entry.1.line ++ "-" ++ toString entry.2
  made : ∀ entry ∈ issued, findings[entry.2]? = some entry.1.toFinding
  order : issued.Pairwise Precedes

def lineLE (bug other : Bug) : Bool := bug.line ≤ other.line

theorem lineLE_trans (a b c : Bug) (ab : lineLE a b = true) (bc : lineLE b c = true) :
    lineLE a c = true := by
  simp only [lineLE, decide_eq_true_eq] at *
  omega

theorem lineLE_total (a b : Bug) : (lineLE a b || lineLE b a) = true := by
  simp only [lineLE, Bool.or_eq_true, decide_eq_true_eq]
  omega

theorem precedes_of_zipIdxLE {entry later : Bug × Nat}
    (order : List.zipIdxLE lineLE entry later = true) (distinct : entry.2 ≠ later.2) :
    Precedes entry later := by
  simp only [List.zipIdxLE, lineLE, decide_eq_true_eq] at order
  unfold Precedes
  split at order
  next upTo =>
    split at order
    next downTo =>
      rw [decide_eq_true_eq] at order
      omega
    next => omega
  next => cases order

/-- The bugs in the order of the report, each with its place before the sort. -/
def placed (bugs : List Bug) : List (Bug × Nat) :=
  bugs.zipIdx.mergeSort (List.zipIdxLE lineLE)

variable (bugs : List Bug)

theorem map_fst_placed : (placed bugs).map Prod.fst = sortBugs bugs := List.mergeSort_zipIdx

theorem perm_placed : (placed bugs).Perm bugs.zipIdx := List.mergeSort_perm _ _

theorem perm_map_snd_placed : ((placed bugs).map Prod.snd).Perm (List.range bugs.length) := by
  rw [List.range_eq_range', ← List.zipIdx_map_snd]
  exact (perm_placed bugs).map Prod.snd

theorem pairwise_placed : (placed bugs).Pairwise Precedes := by
  have sorted : (placed bugs).Pairwise fun entry later => List.zipIdxLE lineLE entry later = true :=
    List.pairwise_mergeSort (List.zipIdxLE_trans lineLE_trans) (List.zipIdxLE_total lineLE_total) _
  have distinct : (placed bugs).Pairwise fun entry later => entry.2 ≠ later.2 :=
    List.pairwise_map.mp ((perm_map_snd_placed bugs).nodup_iff.mpr List.nodup_range)
  exact (sorted.and distinct).imp fun pair => precedes_of_zipIdxLE pair.1 pair.2

variable {bugs}

theorem Ordinals.of_analyzed {language : Language} {code : String} {own : List Finding}
    (analyzed : Analyzed language code own bugs) :
    Ordinals language.name (commonCheck code.toList ++ own) (Report.ofBugs bugs) (placed bugs) where
  bugs := map_fst_placed bugs
  once := by
    have length : (Report.ofBugs bugs).bugs.length = bugs.length := List.length_mergeSort bugs
    rw [length]
    exact perm_map_snd_placed bugs
  id := fun entry member => analyzed.numbered entry ((perm_placed bugs).mem_iff.mp member)
  made := fun entry member => by
    have stands := List.mem_zipIdx_iff_getElem?.mp ((perm_placed bugs).mem_iff.mp member)
    rw [← analyzed.identified, List.getElem?_map, stands]
    rfl
  order := pairwise_placed bugs

theorem Ordinals.nodup_ids {language : String} {findings : List Finding} {report : Report}
    {issued : List (Bug × Nat)} (ordinals : Ordinals language findings report issued) :
    (report.bugs.map (·.id)).Nodup := by
  have distinct : (issued.map Prod.snd).Nodup := ordinals.once.nodup_iff.mpr List.nodup_range
  rw [← ordinals.bugs, List.map_map]
  refine List.pairwise_map.mpr ((List.pairwise_map.mp distinct).imp_of_mem ?_)
  intro entry other member otherMember different same
  apply different
  apply bugId_injective
  calc bugId language entry.1.line entry.2 = entry.1.id := (ordinals.id entry member).symm
    _ = other.1.id := same
    _ = bugId language other.1.line other.2 := ordinals.id other otherMember

/-- The identifier of each bug is the language's name, the bug's line and an ordinal. The ordinals
count all findings from zero in the order in which they are made, each once, and the report is in
strictly rising order of line and ordinal. -/
theorem exists_ordinals (language : Language) (code : String) :
    ∃ report findings issued,
      analyzeStandard code language.name = .ok report ∧
      language.findings code.toList = .ok findings ∧
      findings.length = report.bugs.length ∧
      Ordinals language.name findings report issued ∧
      (report.bugs.map (·.id)).Nodup := by
  obtain ⟨own, bugs, analyzed⟩ := exists_analyzed language code
  have ordinals := Ordinals.of_analyzed analyzed
  have length : (commonCheck code.toList ++ own).length = (Report.ofBugs bugs).bugs.length := by
    rw [← analyzed.identified, List.length_map]
    exact (List.length_mergeSort bugs).symm
  exact ⟨Report.ofBugs bugs, commonCheck code.toList ++ own, placed bugs, analyzed.reported,
    analyzed.found, length, ordinals, ordinals.nodup_ids⟩

end LineLint
