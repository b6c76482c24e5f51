import LineLint.Proofs.Report.LineOrder

namespace LineLint

section

variable {α : Type} {line : α → Int} {first second : List α}

theorem head_le_of_filter_eq {a b : α}
    (rising : (b :: second).Pairwise fun item later => line item ≤ line later)
    (level : (a :: first).filter (line · == line a) = (b :: second).filter (line · == line a)) :
    line b ≤ line a := by
  have listed : a ∈ (b :: second).filter (line · == line a) := by
    rw [← level]
    exact List.mem_filter.mpr ⟨List.mem_cons_self, beq_self_eq_true _⟩
  rcases List.mem_cons.mp (List.mem_filter.mp listed).1 with rfl | later
  · exact Int.le_refl _
  · exact (List.pairwise_cons.mp rising).1 a later

/-- Of all lists with the same items on every line, one is in the order of the lines. -/
theorem eq_of_filter_line_eq
    (rising : first.Pairwise fun item later => line item ≤ line later)
    (otherRising : second.Pairwise fun item later => line item ≤ line later)
    (level : ∀ n, first.filter (line · == n) = second.filter (line · == n)) : first = second := by
  induction first generalizing second with
  | nil =>
      cases second with
      | nil => rfl
      | cons b others => simpa using level (line b)
  | cons a rest induction =>
      cases second with
      | nil => simpa using level (line a)
      | cons b others =>
          have upTo := head_le_of_filter_eq otherRising (level (line a))
          have downTo := head_le_of_filter_eq rising (level (line b)).symm
          have onOneLine : line b = line a := Int.le_antisymm upTo downTo
          have heads := level (line a)
          simp only [List.filter_cons, onOneLine, beq_self_eq_true, if_true] at heads
          obtain ⟨rfl, -⟩ := List.cons.inj heads
          apply congrArg (a :: ·)
          apply induction (List.pairwise_cons.mp rising).2 (List.pairwise_cons.mp otherRising).2
          intro n
          have whole := level n
          rw [List.filter_cons, List.filter_cons] at whole
          split at whole
          next => exact (List.cons.inj whole).2
          next => exact whole

end

/-- The same bugs by line; those of one line stand to each other as they did. -/
structure LineSorted (bugs sorted : List Bug) : Prop where
  perm : sorted.Perm bugs
  rising : sorted.Pairwise fun bug later => bug.line ≤ later.line
  kept : ∀ line : Int, sorted.filter (·.line == line) = bugs.filter (·.line == line)

variable {bugs : List Bug}

theorem filter_line_sortBugs (line : Int) :
    (sortBugs bugs).filter (·.line == line) = bugs.filter (·.line == line) := by
  cases line with
  | ofNat number => exact filter_isOn_sortBugs number
  | negSucc number =>
      have beyond : ∀ bug : Bug, (bug.line == Int.negSucc number) = false := by
        intro bug
        have positive := bug.line_pos
        rw [beq_eq_false_iff_ne]
        omega
      simp only [beyond, List.filter_false]

theorem lineSorted_sortBugs (bugs : List Bug) : LineSorted bugs (sortBugs bugs) where
  perm := List.mergeSort_perm bugs _
  rising := pairwise_sortBugs
  kept := filter_line_sortBugs

theorem LineSorted.eq_sortBugs {sorted : List Bug} (lineSorted : LineSorted bugs sorted) :
    sorted = sortBugs bugs := by
  apply eq_of_filter_line_eq lineSorted.rising pairwise_sortBugs
  intro line
  rw [lineSorted.kept, filter_line_sortBugs]

namespace Summary

def count (summary : Summary) : Severity → Nat
  | .critical => summary.critical
  | .warning => summary.warning
  | .info => summary.info

@[ext] theorem eq_of_count_eq {summary other : Summary}
    (same : ∀ severity, summary.count severity = other.count severity) : summary = other := by
  obtain ⟨critical, warning, info⟩ := summary
  obtain ⟨otherCritical, otherWarning, otherInfo⟩ := other
  congr
  · exact same .critical
  · exact same .warning
  · exact same .info

@[simp] theorem count_ofBugs (bugs : List Bug) (severity : Severity) :
    (ofBugs bugs).count severity = bugs.countP (·.severity == severity) := by
  cases severity <;> rfl

theorem ofBugs_eq_of_perm {other : List Bug} (perm : other.Perm bugs) :
    ofBugs other = ofBugs bugs := by
  ext severity
  rw [count_ofBugs, count_ofBugs, perm.countP_eq]

@[simp] theorem ofBugs_sortBugs (bugs : List Bug) : ofBugs (sortBugs bugs) = ofBugs bugs :=
  ofBugs_eq_of_perm (List.mergeSort_perm bugs _)

theorem total_ofBugs (bugs : List Bug) : (ofBugs bugs).total = bugs.length := by
  induction bugs with
  | nil => rfl
  | cons bug rest induction =>
      simp only [total, ofBugs, List.countP_cons, List.length_cons] at induction ⊢
      cases bug.severity <;> simp <;> omega

end Summary

/-- The report of a list of bugs. -/
structure Aggregates (bugs : List Bug) (report : Report) : Prop where
  sorted : LineSorted bugs report.bugs
  unique : ∀ other, LineSorted bugs other → other = report.bugs
  counted : ∀ severity, report.summary.count severity = bugs.countP (·.severity == severity)
  total : report.summary.total = bugs.length
  reordered : ∀ other, other.Perm bugs → Summary.ofBugs other = report.summary
  settled : sortBugs report.bugs = report.bugs

theorem aggregates_ofBugs (bugs : List Bug) : Aggregates bugs (Report.ofBugs bugs) := by
  have summary : (Report.ofBugs bugs).summary = Summary.ofBugs bugs := Summary.ofBugs_sortBugs bugs
  constructor
  · exact lineSorted_sortBugs bugs
  · intro other lineSorted
    exact lineSorted.eq_sortBugs
  · intro severity
    rw [summary, Summary.count_ofBugs]
  · rw [summary, Summary.total_ofBugs]
  · intro other reordering
    rw [summary, Summary.ofBugs_eq_of_perm reordering]
  · apply List.mergeSort_of_pairwise
    exact pairwise_sortBugs.imp decide_eq_true

theorem Aggregates.eq_ofBugs {report : Report} (aggregates : Aggregates bugs report) :
    report = Report.ofBugs bugs := by
  obtain ⟨listed, summary⟩ := report
  obtain rfl : listed = sortBugs bugs := aggregates.sorted.eq_sortBugs
  rw [Report.ofBugs]
  congr
  ext severity
  rw [aggregates.counted, Summary.count_ofBugs, aggregates.sorted.perm.countP_eq]

/-- What becomes of a text in a language: nothing is found where no rule set is registered, a rule
set's fault is the answer, and its bugs are put in a report. -/
inductive Dispatches (registry : Registry) (code language : String) : Except Fault Report → Prop
  | unregistered (absent : registry.lookup language = none) :
      Dispatches registry code language (.ok ⟨[], ⟨0, 0, 0⟩⟩)
  | faulty {ruleSet : RuleSet} {fault : Fault}
      (registered : registry.lookup language = some ruleSet)
      (raised : ruleSet code = .error fault) : Dispatches registry code language (.error fault)
  | aggregated {ruleSet : RuleSet} {bugs : List Bug} {report : Report}
      (registered : registry.lookup language = some ruleSet) (found : ruleSet code = .ok bugs)
      (aggregates : Aggregates bugs report) : Dispatches registry code language (.ok report)

section

variable {registry : Registry} {code language : String} {ruleSet : RuleSet}

theorem analyze_of_absent (absent : registry.lookup language = none) :
    analyze registry code language = .ok Report.empty := by
  rw [analyze, Registry.ruleSet?_plain, absent]

theorem analyze_of_error {fault : Fault} (registered : registry.lookup language = some ruleSet)
    (raised : ruleSet code = .error fault) : analyze registry code language = .error fault := by
  simp only [analyze, Registry.ruleSet?_plain, registered, raised]
  rfl

theorem analyze_of_ok {bugs : List Bug} (registered : registry.lookup language = some ruleSet)
    (found : ruleSet code = .ok bugs) :
    analyze registry code language = .ok (Report.ofBugs bugs) := by
  simp only [analyze, Registry.ruleSet?_plain, registered, found]
  rfl

end

theorem dispatches_analyze (registry : Registry) (code language : String) :
    Dispatches registry code language (analyze registry code language) := by
  cases registered : registry.lookup language with
  | none =>
      rw [analyze_of_absent registered]
      exact .unregistered registered
  | some ruleSet =>
      cases raised : ruleSet code with
      | error fault =>
          rw [analyze_of_error registered raised]
          exact .faulty registered raised
      | ok bugs =>
          rw [analyze_of_ok registered raised]
          exact .aggregated registered raised (aggregates_ofBugs bugs)

/-- Every registry, code and language have one result, and this is how it comes about. -/
theorem analyze_eq_iff_dispatches (registry : Registry) (code language : String)
    (result : Except Fault Report) :
    analyze registry code language = result ↔ Dispatches registry code language result := by
  constructor
  · rintro rfl
    exact dispatches_analyze registry code language
  · intro dispatches
    cases dispatches with
    | unregistered absent => exact analyze_of_absent absent
    | faulty registered raised => exact analyze_of_error registered raised
    | aggregated registered found aggregates =>
        rw [aggregates.eq_ofBugs]
        exact analyze_of_ok registered found

end LineLint
