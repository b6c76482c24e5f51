import LineLint.Proofs.Check.ByLine
import LineLint.Proofs.Report.Order

namespace LineLint

section

variable {bugs : List Bug}

theorem pairwise_sortBugs : (sortBugs bugs).Pairwise fun bug later => bug.line ≤ later.line := by
  have sorted : (sortBugs bugs).Pairwise fun bug later => lineLE bug later = true :=
    List.pairwise_mergeSort lineLE_trans lineLE_total bugs
  exact sorted.imp of_decide_eq_true

theorem filter_isOn_sortBugs (number : Nat) :
    (sortBugs bugs).filter (·.isOn number) = bugs.filter (·.isOn number) := by
  have level : (bugs.filter (·.isOn number)).Pairwise fun bug later => lineLE bug later = true := by
    apply List.pairwise_of_forall_mem_list
    intro bug member later laterMember
    rw [lineLE, Finding.isOn_iff.mp (List.mem_filter.mp member).2,
      Finding.isOn_iff.mp (List.mem_filter.mp laterMember).2]
    exact decide_eq_true (Int.le_refl _)
  -- A sorted part of a list comes out of the sort in one piece; the counts leave room for no other.
  have kept : (bugs.filter (·.isOn number)).Sublist (sortBugs bugs) :=
    List.sublist_mergeSort lineLE_trans lineLE_total level List.filter_sublist
  have among : (bugs.filter (·.isOn number)).Sublist ((sortBugs bugs).filter (·.isOn number)) := by
    simpa only [List.filter_filter, Bool.and_self] using kept.filter (·.isOn number)
  have count : (bugs.filter (·.isOn number)).length =
      ((sortBugs bugs).filter (·.isOn number)).length :=
    ((List.mergeSort_perm bugs _).symm.filter _).length_eq
  exact (among.eq_of_length count).symm

theorem filter_isOn_append_filter_not {number : Nat}
    (sorted : bugs.Pairwise fun bug later => bug.line ≤ later.line)
    (least : ∀ bug ∈ bugs, number ≤ bug.line) :
    bugs.filter (·.isOn number) ++ bugs.filter (!·.isOn number) = bugs := by
  induction bugs with
  | nil => rfl
  | cons bug rest induction =>
      obtain ⟨upTo, sorted⟩ := List.pairwise_cons.mp sorted
      simp only [List.mem_cons, forall_eq_or_imp] at least
      cases here : bug.isOn number with
      | true =>
          simp only [List.filter_cons, here, Bool.not_true, if_true, Bool.false_eq_true, if_false,
            List.cons_append, induction sorted least.2]
      | false =>
          have beyond : ∀ other ∈ bug :: rest, other.isOn number = false := by
            intro other member
            rcases List.mem_cons.mp member with rfl | later
            · exact here
            · have first := Finding.isOn_eq_false_iff.mp here
              have order := upTo other later
              have := least.1
              rw [Finding.isOn_eq_false_iff]
              omega
          have none : (bug :: rest).filter (·.isOn number) = [] := by
            rw [List.filter_eq_nil_iff]
            intro other member
            simp [beyond other member]
          have all : (bug :: rest).filter (!·.isOn number) = bug :: rest := by
            rw [List.filter_eq_self]
            intro other member
            simp [beyond other member]
          rw [none, all, List.nil_append]

theorem filter_isOn_filter_not {number other : Nat} (elsewhere : number ≠ other) :
    (bugs.filter (!·.isOn number)).filter (·.isOn other) = bugs.filter (·.isOn other) := by
  rw [List.filter_filter]
  apply List.filter_congr
  intro bug _
  cases here : bug.isOn other with
  | false => rfl
  | true =>
      have absent : bug.isOn number = false := by
        rw [Finding.isOn_iff] at here
        rw [Finding.isOn_eq_false_iff]
        omega
      rw [absent]
      rfl

theorem flatMap_filter_isOn {numbers : List Nat} (rising : numbers.Pairwise (· < ·))
    (sorted : bugs.Pairwise fun bug later => bug.line ≤ later.line)
    (covered : ∀ bug ∈ bugs, ∃ number ∈ numbers, bug.isOn number = true) :
    numbers.flatMap (fun number => bugs.filter (·.isOn number)) = bugs := by
  induction numbers generalizing bugs with
  | nil =>
      cases bugs with
      | nil => rfl
      | cons bug rest =>
          obtain ⟨number, member, -⟩ := covered bug List.mem_cons_self
          cases member
  | cons number rest induction =>
      obtain ⟨below, rising⟩ := List.pairwise_cons.mp rising
      have least : ∀ bug ∈ bugs, number ≤ bug.line := by
        intro bug member
        obtain ⟨other, listed, here⟩ := covered bug member
        rw [Finding.isOn_iff] at here
        rcases List.mem_cons.mp listed with rfl | later
        · omega
        · have := below other later
          omega
      have remaining : ∀ bug ∈ bugs.filter (!·.isOn number),
          ∃ other ∈ rest, bug.isOn other = true := by
        intro bug member
        obtain ⟨member, elsewhere⟩ := List.mem_filter.mp member
        obtain ⟨other, listed, here⟩ := covered bug member
        rcases List.mem_cons.mp listed with rfl | later
        · rw [here] at elsewhere
          cases elsewhere
        · exact ⟨other, later, here⟩
      have same : rest.flatMap (fun other => (bugs.filter (!·.isOn number)).filter (·.isOn other)) =
          rest.flatMap (fun other => bugs.filter (·.isOn other)) := by
        apply List.flatMap_congr
        intro other listed
        exact filter_isOn_filter_not (Nat.ne_of_lt (below other listed))
      rw [List.flatMap_cons, ← same, induction rising (sorted.filter _) remaining]
      exact filter_isOn_append_filter_not sorted least

theorem sortBugs_eq_flatMap {numbers : List Nat} (rising : numbers.Pairwise (· < ·))
    (covered : ∀ bug ∈ bugs, ∃ number ∈ numbers, bug.isOn number = true) :
    sortBugs bugs = numbers.flatMap fun number => bugs.filter (·.isOn number) := by
  have sortedCovered : ∀ bug ∈ sortBugs bugs, ∃ number ∈ numbers, bug.isOn number = true := by
    intro bug member
    exact covered bug (List.mem_mergeSort.mp member)
  have split := flatMap_filter_isOn rising pairwise_sortBugs sortedCovered
  simp only [filter_isOn_sortBugs] at split
  exact split.symm

end

theorem Analyzed.exists_isOn {language : Language} {code : String} {own : List Finding}
    {bugs : List Bug} (analyzed : Analyzed language code own bugs) :
    ∀ bug ∈ bugs, ∃ number ∈ lineNumbers (lines code.toList), bug.isOn number = true := by
  intro bug member
  have found : bug.toFinding ∈ commonCheck code.toList ++ own := by
    rw [← analyzed.identified]
    exact List.mem_map_of_mem member
  obtain ⟨notice, number, -, first, last, same⟩ := analyzed.filed bug.toFinding found
  refine ⟨number, mem_lineNumbers.mpr ⟨first, last⟩, ?_⟩
  rw [same, Finding.isOn_at]
  exact decide_eq_true rfl

theorem reportLong_startingAt (all : List Line) (number : Nat) :
    BraceSpan.reportLong Quality.functionLimit Quality.longFunction
        (BraceSpan.startingAt Quality.functionSyntax all number) =
      ((BraceSpan.startingAt Quality.functionSyntax all number).filter (50 < ·.length)).toList.map
        fun span => Quality.overlongFunction span.name span.length number (lineAt all number) := by
  cases started : BraceSpan.startingAt Quality.functionSyntax all number with
  | none => rfl
  | some span =>
      obtain ⟨header, rfl⟩ := BraceSpan.header_of_startingAt started
      rw [BraceSpan.reportLong_eq, Option.filter_some]
      by_cases long : 50 < span.length <;>
        simp [Quality.functionLimit, Quality.longFunction_at, long, header]

/-- A report is its lines one after the other. On each line stand the security rules, the quality
rules, the function that starts there, if it is a long one, and what the language's own check says
of that line, in the order in which it says it. -/
theorem report_eq_flatMap (language : Language) (code : String) :
    ∃ report own,
      analyzeStandard code language.name = .ok report ∧
      language.ownCheck code.toList = .ok own ∧
      report.bugs.map Bug.toFinding =
        (lineNumbers (lines code.toList)).flatMap fun number =>
          Rule.check Security.rules number (lineAt (lines code.toList) number) ++
            Rule.check Quality.rules number (lineAt (lines code.toList) number) ++
            (((BraceSpan.startingAt Quality.functionSyntax (lines code.toList) number).filter
              (50 < ·.length)).toList.map fun span =>
                Quality.overlongFunction span.name span.length number
                  (lineAt (lines code.toList) number)) ++
            own.filter (·.isOn number) := by
  obtain ⟨own, bugs, analyzed⟩ := exists_analyzed language code
  refine ⟨Report.ofBugs bugs, own, analyzed.reported, analyzed.checked, ?_⟩
  rw [Report.ofBugs, sortBugs_eq_flatMap (rising_lineNumbers _) analyzed.exists_isOn,
    List.map_flatMap]
  apply List.flatMap_congr
  intro number inside
  have erased : (bugs.filter (·.isOn number)).map Bug.toFinding =
      (bugs.map Bug.toFinding).filter (·.isOn number) := by
    rw [List.filter_map]
    rfl
  rw [erased, analyzed.identified, commonCheck, List.filter_append, List.filter_append,
    Security.check, filter_isOn_scanRules _ inside, Quality.filter_isOn_check inside,
    reportLong_startingAt]
  simp only [List.append_assoc]

end LineLint
