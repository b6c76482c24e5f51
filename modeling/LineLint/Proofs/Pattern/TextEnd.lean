import LineLint.Proofs.Pattern.Match
import Mathlib.Data.List.Basic

namespace LineLint

namespace Cursor

def extend (c : Cursor) (x : Char) : Cursor := { c with after := c.after ++ [x] }

/-- Whether there is something left to match. -/
def isLive (c : Cursor) : Bool := !c.after.isEmpty

variable {c : Cursor} {x : Char}

@[simp] theorem isLive_extend : (c.extend x).isLive = true := by
  simp [isLive, extend]

theorem isLive_eq_false_iff : c.isLive = false ↔ c.after = [] := by
  simp [isLive]

theorem atWordEdge_extend (apart : isWordChar x = false) :
    (c.extend x).atWordEdge = c.atWordEdge := by
  cases after : c.after <;> simp [atWordEdge, extend, after, apart]

end Cursor

namespace Pattern

/-- The pattern takes no notice of `x` where its match ends. -/
def overlooks (x : Char) : Pattern → Bool
  | empty | one _ | many _ | atStart | capture _ => true
  | seq p q | alt p q => p.overlooks x && q.overlooks x
  | atEnd => false
  | wordEdge => !isWordChar x
  | notBefore set => !set.contains x

/-- The pattern needs a character. -/
def demands : Pattern → Bool
  | one _ | capture _ => true
  | seq p q => p.demands || q.demands
  | alt p q => p.demands && q.demands
  | empty | many _ | atStart | atEnd | wordEdge | notBefore _ => false

/-- The pattern does not take `x` last. -/
def spares (x : Char) : Pattern → Bool
  | one set | many set | capture set => !set.contains x
  | seq p q => q.spares x && (p.spares x || q.demands)
  | alt p q => p.spares x && q.spares x
  | empty | atStart | atEnd | wordEdge | notBefore _ => true

/-- One more `x` at the end of a text makes no difference to the pattern. -/
def ignoresLast (x : Char) (p : Pattern) : Bool := p.overlooks x && p.spares x && p.demands

variable {p q : Pattern} {c d : Cursor} {x : Char}

theorem filter_runs_append (set : CharSet) (taken : Nat) (before after : List Char) :
    (runs set taken before (after ++ [x])).filter (!·.2.2.isEmpty) =
      (runs set taken before after).map fun (taken, before, after) =>
        (taken, before, after ++ [x]) := by
  induction after generalizing taken before with
  | nil => by_cases member : set.contains x = true <;> simp [runs, member]
  | cons y rest induction =>
      rw [List.cons_append, runs, runs]
      split
      · rw [List.filter_append, induction, List.map_append]
        rfl
      · rfl

theorem live_of_mem_runs {set : CharSet} (apart : set.contains x = false) {taken : Nat}
    {before after : List Char} {entry : Nat × List Char × List Char}
    (member : entry ∈ runs set taken before (after ++ [x])) : entry.2.2 ≠ [] := by
  induction after generalizing taken before with
  | nil =>
      simp only [List.nil_append, runs, apart, Bool.false_eq_true, if_false,
        List.mem_singleton] at member
      simp [member]
  | cons y rest induction =>
      rw [List.cons_append, runs] at member
      split at member
      · rcases List.mem_append.mp member with longer | here
        · exact induction longer
        · simp [List.mem_singleton.mp here]
      · simp [List.mem_singleton.mp member]

theorem after_eq_nil_of_mem_ends (done : c.after = []) (stops : d ∈ p.ends c) : d.after = [] := by
  induction p generalizing c d with
  | empty =>
      obtain rfl := List.mem_singleton.mp stops
      exact done
  | one set => simp [ends, done] at stops
  | many set =>
      simp only [ends, done, runs, List.map_cons, List.map_nil, List.mem_singleton] at stops
      rw [stops]
  | seq p q first second =>
      obtain ⟨between, reached, stops⟩ := List.mem_flatMap.mp stops
      exact second (first done reached) stops
  | alt p q first second =>
      rcases List.mem_append.mp stops with stops | stops
      · exact first done stops
      · exact second done stops
  | capture set => simp [ends, done, runs] at stops
  | atStart | atEnd | wordEdge =>
      simp only [ends] at stops
      split at stops
      · obtain rfl := List.mem_singleton.mp stops
        exact done
      · cases stops
  | notBefore set =>
      simp only [ends] at stops
      split at stops
      · cases stops
      · obtain rfl := List.mem_singleton.mp stops
        exact done

theorem ends_eq_nil_of_demands (needs : p.demands = true) (done : c.after = []) :
    p.ends c = [] := by
  induction p generalizing c with
  | one set => simp [ends, done]
  | capture set => simp [ends, done, runs]
  | seq p q first second =>
      apply List.flatMap_eq_nil_iff.mpr
      intro between reached
      rcases Bool.or_eq_true_iff.mp needs with needs | needs
      · rw [first needs done] at reached
        cases reached
      · exact second needs (after_eq_nil_of_mem_ends done reached)
  | alt p q first second =>
      obtain ⟨needs, others⟩ := Bool.and_eq_true_iff.mp needs
      exact List.append_eq_nil_iff.mpr ⟨first needs done, second others done⟩
  | empty | many | atStart | atEnd | wordEdge | notBefore => cases needs

theorem flatMap_filter_of_eq_nil {α β : Type} {items : List α} {keep : α → Bool}
    {found : α → List β} (nothing : ∀ item ∈ items, keep item = false → found item = []) :
    (items.filter keep).flatMap found = items.flatMap found := by
  induction items with
  | nil => rfl
  | cons item rest induction =>
      simp only [List.mem_cons, forall_eq_or_imp] at nothing
      rw [List.filter_cons, List.flatMap_cons]
      split
      next => rw [List.flatMap_cons, induction nothing.2]
      next dropped =>
        rw [nothing.1 (Bool.eq_false_iff.mpr dropped), List.nil_append, induction nothing.2]

theorem filter_ends_of_not_isLive (done : c.isLive = false) :
    (p.ends c).filter (·.isLive) = [] := by
  rw [List.filter_eq_nil_iff]
  intro d stops
  have nothing := after_eq_nil_of_mem_ends (Cursor.isLive_eq_false_iff.mp done) stops
  simp [Cursor.isLive, nothing]

section

variable (set : CharSet) (c : Cursor)

theorem filter_ends_one :
    ((one set).ends (c.extend x)).filter (·.isLive) = ((one set).ends c).map (·.extend x) := by
  cases after : c.after with
  | nil =>
      by_cases member : set.contains x = true <;>
        simp [ends, Cursor.extend, Cursor.isLive, after, member]
  | cons y rest =>
      by_cases member : set.contains y = true <;>
        simp [ends, Cursor.extend, Cursor.isLive, after, member]

theorem filter_ends_many :
    ((many set).ends (c.extend x)).filter (·.isLive) = ((many set).ends c).map (·.extend x) := by
  have shorter := filter_runs_append (x := x) set 0 c.before c.after
  simp only [ends, List.filter_map, List.map_map]
  change ((runs set 0 c.before (c.after ++ [x])).filter (!·.2.2.isEmpty)).map _ = _
  rw [shorter, List.map_map]
  rfl

theorem filter_ends_capture :
    ((capture set).ends (c.extend x)).filter (·.isLive) =
      ((capture set).ends c).map (·.extend x) := by
  have shorter := filter_runs_append (x := x) set 0 c.before c.after
  simp only [ends, List.filter_filterMap, List.map_filterMap]
  calc _ = ((runs set 0 c.before (c.after ++ [x])).filter (!·.2.2.isEmpty)).filterMap
          fun entry =>
            if entry.1 = 0 then none
            else some ⟨entry.2.1, entry.2.2, some (entry.2.1.take entry.1).reverse⟩ := by
        rw [List.filterMap_filter]
        apply List.filterMap_congr
        rintro ⟨taken, before, after⟩ -
        by_cases nothing : taken = 0 <;> by_cases done : after = [] <;>
          simp [nothing, done, Cursor.isLive, Option.filter]
    _ = _ := by
        rw [shorter, List.filterMap_map]
        apply List.filterMap_congr
        rintro ⟨taken, before, after⟩ -
        by_cases nothing : taken = 0 <;> simp [nothing, Cursor.extend]

theorem filter_ends_notBefore (apart : set.contains x = false) :
    ((notBefore set).ends (c.extend x)).filter (·.isLive) =
      ((notBefore set).ends c).map (·.extend x) := by
  cases after : c.after with
  | nil => simp [ends, Cursor.extend, Cursor.isLive, after, apart]
  | cons y rest =>
      by_cases member : set.contains y = true <;>
        simp [ends, Cursor.extend, Cursor.isLive, after, member]

end

/-- With one more character, a pattern has its ends as before, and perhaps others at the very end of
the text. -/
theorem filter_ends_extend (overlooks : p.overlooks x = true) (c : Cursor) :
    (p.ends (c.extend x)).filter (·.isLive) = (p.ends c).map (·.extend x) := by
  induction p generalizing c with
  | empty => simp [ends]
  | one set => exact filter_ends_one set c
  | many set => exact filter_ends_many set c
  | capture set => exact filter_ends_capture set c
  | seq p q first second =>
      obtain ⟨left, right⟩ := Bool.and_eq_true_iff.mp overlooks
      calc ((p.ends (c.extend x)).flatMap q.ends).filter (·.isLive)
          = (p.ends (c.extend x)).flatMap fun between => (q.ends between).filter (·.isLive) :=
            List.filter_flatMap
        _ = ((p.ends (c.extend x)).filter (·.isLive)).flatMap fun between =>
              (q.ends between).filter (·.isLive) := by
            rw [flatMap_filter_of_eq_nil]
            intro between _ done
            exact filter_ends_of_not_isLive done
        _ = (p.ends c).flatMap fun between => (q.ends between).map (·.extend x) := by
            simp only [first left, List.flatMap_map, second right]
        _ = ((p.ends c).flatMap q.ends).map (·.extend x) := List.map_flatMap.symm
  | alt p q first second =>
      obtain ⟨left, right⟩ := Bool.and_eq_true_iff.mp overlooks
      simp only [ends, List.filter_append, List.map_append, first left, second right]
  | atStart =>
      by_cases start : c.before = [] <;> simp [ends, Cursor.extend, Cursor.isLive, start]
  | atEnd => cases overlooks
  | wordEdge =>
      have apart : isWordChar x = false := by simpa [Pattern.overlooks] using overlooks
      rw [ends, ends, Cursor.atWordEdge_extend apart]
      split <;> simp
  | notBefore set =>
      exact filter_ends_notBefore set c (by simpa [Pattern.overlooks] using overlooks)

theorem isLive_of_mem_ends (overlooks : p.overlooks x = true) (spares : p.spares x = true)
    (stops : d ∈ p.ends (c.extend x)) : d.isLive = true := by
  induction p generalizing c d with
  | one set =>
      have apart : set.contains x = false := by simpa [Pattern.spares] using spares
      cases after : c.after with
      | nil => simp [ends, Cursor.extend, after, apart] at stops
      | cons y rest =>
          simp only [ends, Cursor.extend, after, List.cons_append] at stops
          split at stops
          · obtain rfl := List.mem_singleton.mp stops
            simp [Cursor.isLive]
          · cases stops
  | many set =>
      have apart : set.contains x = false := by simpa [Pattern.spares] using spares
      obtain ⟨entry, member, rfl⟩ := List.mem_map.mp stops
      simpa [Cursor.isLive] using live_of_mem_runs apart member
  | capture set =>
      have apart : set.contains x = false := by simpa [Pattern.spares] using spares
      obtain ⟨⟨taken, before, after⟩, member, found⟩ := List.mem_filterMap.mp stops
      have live := live_of_mem_runs apart member
      by_cases nothing : taken = 0
      · simp [nothing] at found
      · simp only [nothing, if_false, Option.some.injEq] at found
        simpa [← found, Cursor.isLive] using live
  | seq p q first second =>
      obtain ⟨left, right⟩ := Bool.and_eq_true_iff.mp overlooks
      obtain ⟨last, before⟩ := Bool.and_eq_true_iff.mp spares
      obtain ⟨between, reached, stops⟩ := List.mem_flatMap.mp stops
      have live : between.isLive = true := by
        rcases Bool.or_eq_true_iff.mp before with before | needs
        · exact first left before reached
        · rw [← Bool.not_eq_false]
          intro done
          rw [ends_eq_nil_of_demands needs (Cursor.isLive_eq_false_iff.mp done)] at stops
          cases stops
      have among : between ∈ (p.ends (c.extend x)).filter (·.isLive) :=
        List.mem_filter.mpr ⟨reached, live⟩
      rw [filter_ends_extend left] at among
      obtain ⟨inner, -, rfl⟩ := List.mem_map.mp among
      exact second right last stops
  | alt p q first second =>
      obtain ⟨left, right⟩ := Bool.and_eq_true_iff.mp overlooks
      obtain ⟨before, last⟩ := Bool.and_eq_true_iff.mp spares
      rcases List.mem_append.mp stops with stops | stops
      · exact first left before stops
      · exact second right last stops
  | atEnd => cases overlooks
  | empty =>
      obtain rfl := List.mem_singleton.mp stops
      exact Cursor.isLive_extend
  | atStart | wordEdge =>
      simp only [ends] at stops
      split at stops
      · obtain rfl := List.mem_singleton.mp stops
        exact Cursor.isLive_extend
      · cases stops
  | notBefore set =>
      simp only [ends] at stops
      split at stops
      · cases stops
      · obtain rfl := List.mem_singleton.mp stops
        exact Cursor.isLive_extend

section

variable (ignores : p.ignoresLast x = true)

include ignores

theorem ends_extend (c : Cursor) : p.ends (c.extend x) = (p.ends c).map (·.extend x) := by
  simp only [ignoresLast, Bool.and_eq_true] at ignores
  rw [← filter_ends_extend ignores.1.1, List.filter_eq_self.mpr]
  intro d stops
  exact isLive_of_mem_ends ignores.1.1 ignores.1.2 stops

theorem run_extend (c : Cursor) : p.run some (c.extend x) = (p.run some c).map (·.extend x) := by
  rw [run_eq_findSome?_ends, run_eq_findSome?_ends, ends_extend ignores]
  cases p.ends c <;> rfl

theorem run_eq_none_of_done {c : Cursor} (done : c.after = []) : p.run some c = none := by
  simp only [ignoresLast, Bool.and_eq_true] at ignores
  rw [run_eq_findSome?_ends, ends_eq_nil_of_demands ignores.2 done]
  rfl

theorem searchFrom_append (before after : List Char) :
    p.searchFrom before (after ++ [x]) = (p.searchFrom before after).map (·.extend x) := by
  induction after generalizing before with
  | nil =>
      have here : p.run some ⟨before, [x], none⟩ =
          (p.run some ⟨before, [], none⟩).map (·.extend x) := run_extend ignores ⟨before, [], none⟩
      have nothing : p.run some ⟨before, [], none⟩ = none := run_eq_none_of_done ignores rfl
      have past : p.run some ⟨x :: before, [], none⟩ = none := run_eq_none_of_done ignores rfl
      rw [List.nil_append, searchFrom_cons, here, searchFrom, searchFrom, nothing, past]
      rfl
  | cons y rest induction =>
      have here : p.run some ⟨before, y :: (rest ++ [x]), none⟩ =
          (p.run some ⟨before, y :: rest, none⟩).map (·.extend x) :=
        run_extend ignores ⟨before, y :: rest, none⟩
      rw [List.cons_append, searchFrom_cons, searchFrom_cons, here, induction, Option.map_or]

theorem occursIn_append (text : List Char) : p.occursIn (text ++ [x]) = p.occursIn text := by
  rw [occursIn, occursIn, search, search, searchFrom_append ignores, Option.isSome_map]

theorem captureIn_append (text : List Char) : p.captureIn (text ++ [x]) = p.captureIn text := by
  rw [captureIn, captureIn, search, search, searchFrom_append ignores]
  cases p.searchFrom [] text <;> rfl

end

end Pattern

end LineLint
