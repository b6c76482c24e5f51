import LineLint.Proofs.Check.Filing
import LineLint.Proofs.Scan.Local

namespace LineLint

theorem flatMap_append_of_apart {α β : Type} {items : List α} {first second : α → List β}
    (apart : items.Pairwise fun item later => second item = [] ∨ first later = []) :
    items.flatMap (fun item => first item ++ second item) =
      items.flatMap first ++ items.flatMap second := by
  induction items with
  | nil => rfl
  | cons item rest induction =>
      obtain ⟨here, apart⟩ := List.pairwise_cons.mp apart
      have swap : second item ++ rest.flatMap first = rest.flatMap first ++ second item := by
        by_cases none : second item = []
        · rw [none, List.nil_append, List.append_nil]
        · have nothing : rest.flatMap first = [] := by
            rw [List.flatMap_eq_nil_iff]
            intro later member
            exact (here later member).resolve_left none
          rw [nothing, List.nil_append, List.append_nil]
      simp only [List.flatMap_cons, induction apart, List.append_assoc]
      rw [← List.append_assoc (second item), swap, List.append_assoc]

theorem filter_isOn_scanRules {text : List Char} {number : Nat} (table : List Rule)
    (inside : number ∈ lineNumbers (lines text)) :
    (scanRules table text).filter (·.isOn number) =
      Rule.check table number (lineAt (lines text) number) :=
  (isLocal_check 0 table).filter_isOn_scan inside

theorem AllFiled.filter_isOn_of_not_mem {issued : Notice → Prop} {all : List Line} {number : Nat}
    {findings : List Finding} (filed : AllFiled issued all findings)
    (outside : number ∉ lineNumbers all) : findings.filter (·.isOn number) = [] := by
  rw [List.filter_eq_nil_iff]
  intro finding member on
  obtain ⟨notice, other, -, first, last, rfl⟩ := filed finding member
  rw [Finding.isOn_at, decide_eq_true_iff] at on
  exact outside (on ▸ mem_lineNumbers.mpr ⟨first, last⟩)

namespace BraceSpan

variable {spelling : FunctionSyntax} {all : List Line} {limit number other : Nat}
variable {notice : BraceSpan → Notice}

def startingAt (spelling : FunctionSyntax) (all : List Line) (number : Nat) : Option BraceSpan :=
  (spans spelling all).find? (·.start == number)

theorem header_of_startingAt {span : BraceSpan}
    (found : startingAt spelling all number = some span) :
    span.header = lineAt all number ∧ span.start = number := by
  have here : (span.start == number) = true :=
    List.find?_some (p := fun span : BraceSpan => span.start == number) found
  have started : span.start = number := beq_iff_eq.mp here
  refine ⟨?_, started⟩
  rw [(header_of_mem_spans (List.mem_of_find?_eq_some found)).2.2, started]

theorem filter_start_eq_find? {found : List BraceSpan} (rising : found.Pairwise (·.start < ·.start))
    (number : Nat) :
    found.filter (·.start == number) = (found.find? (·.start == number)).toList := by
  induction found with
  | nil => rfl
  | cons span rest induction =>
      obtain ⟨below, rising⟩ := List.pairwise_cons.mp rising
      cases here : span.start == number with
      | false =>
          rw [List.filter_cons, List.find?_cons, here]
          exact induction rising
      | true =>
          have none : rest.filter (·.start == number) = [] := by
            rw [List.filter_eq_nil_iff]
            intro later member
            have order := below later member
            simp only [beq_iff_eq] at here ⊢
            omega
          rw [List.filter_cons, List.find?_cons, here, if_pos rfl, none]
          rfl

theorem filter_isOn_flatMap_reportLong :
    ((lineNumbers all).flatMap fun other =>
        reportLong limit notice (Tracker.spanAt spelling all other)).filter (·.isOn number) =
      reportLong limit notice (startingAt spelling all number) := by
  have selected : (spans spelling all).filter
        (fun span => decide (span.start = number) && decide (limit < span.length)) =
      ((startingAt spelling all number).toList).filter (limit < ·.length) := by
    rw [startingAt, ← filter_start_eq_find? pairwise_spans, List.filter_filter]
    apply List.filter_congr
    intro span _
    exact Bool.and_comm _ _
  rw [flatMap_reportLong, List.filter_map, List.filter_filter, reportLong_eq]
  simp only [Function.comp_def, Finding.isOn_at]
  rw [selected]
  apply List.map_congr_left
  intro span member
  have started := List.mem_of_find?_eq_some (Option.mem_toList.mp (List.mem_filter.mp member).1)
  rw [(header_of_mem_spans started).2.2]

/-- A long function ends after the line under which it is filed. -/
theorem filter_isOn_reportLong_of_le (first : 1 ≤ other) (upTo : other ≤ number) :
    (reportLong limit notice (Tracker.spanAt spelling all other)).filter (·.isOn number) = [] := by
  rw [reportLong_eq, List.filter_eq_nil_iff]
  intro finding member
  obtain ⟨span, long, rfl⟩ := List.mem_map.mp member
  obtain ⟨ended, long⟩ := List.mem_filter.mp long
  obtain ⟨start, ends, rfl⟩ := (Tracker.spanAt_eq_some_iff first).mp (Option.mem_toList.mp ended)
  have beyond : limit < other - start := of_decide_eq_true long
  rw [Finding.isOn_at, decide_eq_true_iff]
  change start ≠ number
  omega

end BraceSpan

/-- On each line the rules speak first; the report on a function that starts there follows, though
it is made on the later line where the function ends. -/
theorem Quality.filter_isOn_check {text : List Char} {number : Nat}
    (inside : number ∈ lineNumbers (lines text)) :
    (Quality.check text).filter (·.isOn number) =
      Rule.check Quality.rules number (lineAt (lines text) number) ++
        BraceSpan.reportLong functionLimit longFunction
          (BraceSpan.startingAt functionSyntax (lines text) number) := by
  -- Where a function ends, the line under which it is filed has been read, rules and all.
  have apart : (lineNumbers (lines text)).Pairwise fun other later =>
      (BraceSpan.reportLong functionLimit longFunction
          (BraceSpan.Tracker.spanAt functionSyntax (lines text) other)).filter
          (·.isOn number) = [] ∨
        (Rule.check Quality.rules later (lineAt (lines text) later)).filter
          (·.isOn number) = [] := by
    refine (rising_lineNumbers (lines text)).imp_of_mem ?_
    intro other later member _ order
    rcases Nat.lt_or_ge number other with beyond | upTo
    · right
      exact (isLocal_check 0 Quality.rules).filter_isOn_of_ne (by omega) _ []
    · left
      exact BraceSpan.filter_isOn_reportLong_of_le (mem_lineNumbers.mp member).1 upTo
  have spoken := filter_isOn_scanRules Quality.rules inside
  rw [scanRules_eq_flatMap, List.filter_flatMap] at spoken
  rw [check, Machine.run_eq_flatMap, List.filter_flatMap]
  simp only [reportAt_machine, List.filter_append]
  rw [flatMap_append_of_apart apart, spoken, ← List.filter_flatMap,
    BraceSpan.filter_isOn_flatMap_reportLong]

end LineLint
