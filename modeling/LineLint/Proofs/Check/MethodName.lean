import LineLint.Proofs.Check.FunctionLength
import LineLint.Proofs.Check.MethodHead

namespace LineLint.Java

theorem exists_name_of_mem {text : List Char} {finding : Finding} (member : finding ∈ check text)
    (long : isLongMethod finding.message = true) :
    ∃ (start : Nat) (name : List Char), finding.line = start ∧
      NamesMethod (lineAt (lines text) start) name ∧
      finding.message = s!"Long method '{String.ofList name}'" := by
  have asked : finding ∈ (check text).filter (fun finding => isLongMethod finding.message) :=
    List.mem_filter.mpr ⟨member, long⟩
  rw [filter_longMethod] at asked
  obtain ⟨span, spanned, rfl⟩ := List.mem_map.mp asked
  obtain ⟨number, start, -, -, ends, rfl⟩ :=
    BraceSpan.mem_spans_iff.mp (List.mem_filter.mp spanned).1
  have shows := opens_iff.mp ends.opens
  obtain ⟨name, names, -⟩ := exists_captureIn_name shows
  refine ⟨start, name, rfl, names, ?_⟩
  rw [← nameIn_eq shows names]
  rfl

/-- Whatever a tracker has seen, a line that begins as a method does gives it the word before the
line's first bracket for a name, and that word alone; no line goes without one. The tracker keeps it
until the next such line, and so the report on a long method names the word on the line under which
it is filed. -/
theorem long_methods_named (text : List Char) :
    (∀ line, methodSyntax.opening.occursIn (strip line) = true →
      ∃ name, NamesMethod line name ∧ (∀ other, NamesMethod line other → other = name) ∧
        methodSyntax.name.captureIn (strip line) = some name ∧
        ∀ (tracker : BraceSpan.Tracker) (number : Nat),
          (tracker.feed methodSyntax number line).1.name = String.ofList name) ∧
    (∀ number start, BraceSpan.LastOpening methodSyntax (lines text) number start →
      ∃ name, NamesMethod (lineAt (lines text) start) name ∧
        (BraceSpan.Tracker.after methodSyntax (lines text) number).name = String.ofList name) ∧
    ∀ finding ∈ check text, isLongMethod finding.message = true →
      ∃ (start : Nat) (name : List Char), finding.line = start ∧
        NamesMethod (lineAt (lines text) start) name ∧
        finding.message = s!"Long method '{String.ofList name}'" := by
  refine ⟨?_, ?_, fun finding => exists_name_of_mem⟩
  · intro line opens
    have shows := opens_iff.mp opens
    obtain ⟨name, names, captured⟩ := exists_captureIn_name shows
    refine ⟨name, names, fun other others => others.unique names, captured, ?_⟩
    intro tracker number
    rw [BraceSpan.Tracker.name_feed opens, nameIn_eq shows names]
  · intro number start last
    have shows := opens_iff.mp last.opens
    obtain ⟨name, names, -⟩ := exists_captureIn_name shows
    have knows := (BraceSpan.Tracker.follows_after number).opened start last
    exact ⟨name, names, knows.name_eq.trans (nameIn_eq shows names)⟩

theorem long_methods_named_of_joined_modifiers :
    let header := "  publicstatic int\tcompute (int a) \x7b".toList
    let text := header ++ (List.replicate 30 "\n    a++;".toList).flatten ++ "\n\x7d".toList
    let finding := (longMethod ⟨1, header, "compute", 31⟩).at 1 header
    methodSyntax.opening.occursIn (strip header) = true ∧ NamesMethod header "compute".toList ∧
      methodSyntax.name.captureIn (strip header) = some "compute".toList ∧
      BraceSpan.LastOpening methodSyntax (lines text) 3 1 ∧
      (BraceSpan.Tracker.after methodSyntax (lines text) 3).name = "compute" ∧
      finding ∈ check text ∧ finding.message = "Long method 'compute'" := by
  intro header text finding
  have opens : methodSyntax.opening.occursIn (strip header) = true := by decide +kernel
  have names : NamesMethod header "compute".toList :=
    ⟨"publicstatic int\t".toList, [' '], "int a) \x7b".toList, by decide +kernel, by decide,
      by decide, by decide, CharSet.stopsAt_cons.mpr (by decide)⟩
  have here : lineAt (lines text) (1 : Nat) = header := by decide +kernel
  have last : BraceSpan.LastOpening methodSyntax (lines text) 3 1 := by
    have quiet : ∀ later : Nat, later < 4 → 1 < later →
        methodSyntax.opens (lineAt (lines text) later) = false := by
      decide +kernel
    exact ⟨by decide, by decide, here ▸ opens,
      fun later after upTo => quiet later (Nat.lt_succ_of_le upTo) after⟩
  have reported : finding ∈ check text := by decide +kernel
  obtain ⟨named, carried, told⟩ := long_methods_named text
  obtain ⟨name, -, only, captured, -⟩ := named header opens
  obtain rfl := only _ names
  obtain ⟨name, others, kept⟩ := carried 3 1 last
  rw [here] at others
  obtain rfl := only _ others
  obtain ⟨start, name, first, others, message⟩ := told finding reported (isLongMethod_longMethod _)
  obtain rfl : 1 = start := Int.ofNat_inj.mp first
  rw [here] at others
  obtain rfl := only _ others
  exact ⟨opens, names, captured, last, kept, reported, message⟩

end LineLint.Java
