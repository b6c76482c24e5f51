import LineLint.Proofs.Pattern.Match
import LineLint.Proofs.Text.Blank
import LineLint.Proofs.Text.Case

namespace LineLint

namespace CharSet

/-- All characters of the text are in the set. -/
def Spans (set : CharSet) (text : List Char) : Prop := ∀ x ∈ text, set.contains x = true

instance (set : CharSet) (text : List Char) : Decidable (set.Spans text) :=
  List.decidableBAll (fun x => set.contains x = true) text

@[simp] theorem spans_nil (set : CharSet) : set.Spans [] := by simp [Spans]

@[simp] theorem spans_cons {set : CharSet} {x : Char} {text : List Char} :
    set.Spans (x :: text) ↔ set.contains x = true ∧ set.Spans text := List.forall_mem_cons

theorem spans_noneOf {excluded text : List Char} :
    (noneOf excluded).Spans text ↔ ∀ x ∈ text, x ∉ excluded := by
  simp [Spans]

theorem spans_noneOf_singleton {x : Char} {text : List Char} :
    (noneOf [x]).Spans text ↔ x ∉ text := by
  rw [spans_noneOf]
  constructor
  · intro apart member
    exact apart x member (List.mem_singleton_self x)
  · intro absent y member listed
    obtain rfl := List.mem_singleton.mp listed
    exact absent member

theorem Spans.reverse {set : CharSet} {text : List Char} (spans : set.Spans text) :
    set.Spans text.reverse :=
  fun x member => spans x (List.mem_reverse.mp member)

theorem Spans.not_mem {set : CharSet} {text : List Char} {x : Char} (spans : set.Spans text)
    (outside : set.contains x = false) : x ∉ text := by
  intro member
  rw [spans x member] at outside
  cases outside

/-- The text does not go on with a character of the set. -/
def StopsAt (set : CharSet) (rest : List Char) : Prop := ∀ x ∈ rest.head?, set.contains x = false

@[simp] theorem stopsAt_nil (set : CharSet) : set.StopsAt [] := by simp [StopsAt]

@[simp] theorem stopsAt_cons {set : CharSet} {x : Char} {rest : List Char} :
    set.StopsAt (x :: rest) ↔ set.contains x = false := by simp [StopsAt]

theorem Spans.eq_nil_of_stopsAt {set : CharSet} {run rest : List Char} (spans : set.Spans run)
    (stops : set.StopsAt (run ++ rest)) : run = [] := by
  cases run with
  | nil => rfl
  | cons x run =>
      have member := (spans_cons.mp spans).1
      rw [stopsAt_cons.mp stops] at member
      cases member

theorem Spans.takeWhile_append {set : CharSet} {run rest : List Char} (spans : set.Spans run)
    (stops : set.StopsAt rest) : (run ++ rest).takeWhile set.contains = run := by
  have nothing : rest.takeWhile set.contains = [] := by
    cases rest with
    | nil => rfl
    | cons x rest => simp [stopsAt_cons.mp stops]
  rw [List.takeWhile_append_of_pos spans, nothing, List.append_nil]

theorem stopsAt_dropWhile (set : CharSet) (text : List Char) :
    set.StopsAt (text.dropWhile set.contains) := by
  intro x next
  have stops := List.head?_dropWhile_not set.contains text
  rw [Option.mem_def.mp next] at stops
  exact stops

theorem exists_run (set : CharSet) (text : List Char) :
    ∃ run rest, text = run ++ rest ∧ set.Spans run ∧ set.StopsAt rest :=
  ⟨text.takeWhile set.contains, text.dropWhile set.contains, List.takeWhile_append_dropWhile.symm,
    fun _ => List.mem_takeWhile_imp, set.stopsAt_dropWhile text⟩

/-- A run of the set that stops is as long as it can be, so there is only one. -/
theorem Spans.eq_of_append_eq {set : CharSet} {run other rest more : List Char}
    (spans : set.Spans run) (otherSpans : set.Spans other) (stops : set.StopsAt rest)
    (otherStops : set.StopsAt more) (same : run ++ rest = other ++ more) :
    run = other ∧ rest = more := by
  have runs : run = other := by
    rw [← spans.takeWhile_append stops, same, otherSpans.takeWhile_append otherStops]
  subst runs
  exact ⟨rfl, List.append_cancel_left same⟩

end CharSet

/-- At least one word character, and nothing else. -/
def IsWord (text : List Char) : Prop := CharSet.word.Spans text ∧ text ≠ []

instance (text : List Char) : Decidable (IsWord text) :=
  inferInstanceAs (Decidable (_ ∧ _))

theorem IsWord.reverse {word : List Char} (isWord : IsWord word) : IsWord word.reverse :=
  ⟨isWord.1.reverse, List.reverse_ne_nil_iff.mpr isWord.2⟩

theorem IsWord.stopsAt_blank {word : List Char} (isWord : IsWord word) (rest : List Char) :
    CharSet.blank.StopsAt (word ++ rest) := by
  obtain ⟨members, visible⟩ := isWord
  cases word with
  | nil => exact absurd rfl visible
  | cons x word =>
      have member : isWordChar x = true := (CharSet.spans_cons.mp members).1
      apply CharSet.stopsAt_cons.mpr
      rw [CharSet.contains_blank, ← Bool.not_eq_true]
      intro blank
      rw [isWordChar_of_isBlank blank] at member
      cases member

theorem CharSet.Spans.stopsAt_word {blanks rest : List Char} (spans : CharSet.blank.Spans blanks)
    (stops : CharSet.word.StopsAt rest) : CharSet.word.StopsAt (blanks ++ rest) := by
  cases blanks with
  | nil => exact stops
  | cons x blanks => exact stopsAt_cons.mpr (isWordChar_of_isBlank (spans_cons.mp spans).1)

/-- The cursor after `taken` has been read, with `rest` left and `kept` remembered. -/
def Cursor.past (c : Cursor) (taken rest : List Char) (kept : Option (List Char)) : Cursor :=
  ⟨taken.reverse ++ c.before, rest, kept.or c.captured⟩

namespace Cursor

variable (c : Cursor) (taken others middle rest : List Char) (early late : Option (List Char))

@[simp] theorem reverse_before_past :
    (c.past taken rest early).before.reverse = c.before.reverse ++ taken := by
  simp [past]

@[simp] theorem past_past :
    (c.past taken middle early).past others rest late =
      c.past (taken ++ others) rest (late.or early) := by
  simp [past, Option.or_assoc]

end Cursor

namespace Pattern

/-- Between `before` and `after` the pattern takes `taken` and remembers `kept`. -/
def Reads : Pattern → (before taken after : List Char) → (kept : Option (List Char)) → Prop
  | empty, _, taken, _, kept => taken = [] ∧ kept = none
  | one set, _, taken, _, kept => (∃ x, set.contains x = true ∧ taken = [x]) ∧ kept = none
  | many set, _, taken, _, kept => set.Spans taken ∧ kept = none
  | seq p q, before, taken, after, kept =>
      ∃ first second, taken = first ++ second ∧ ∃ early late, kept = late.or early ∧
        p.Reads before first (second ++ after) early ∧ q.Reads (before ++ first) second after late
  | alt p q, before, taken, after, kept =>
      p.Reads before taken after kept ∨ q.Reads before taken after kept
  | atStart, before, taken, _, kept => before = [] ∧ taken = [] ∧ kept = none
  | atEnd, _, taken, after, kept => after = [] ∧ taken = [] ∧ kept = none
  | wordEdge, before, taken, after, kept =>
      before.getLast?.any isWordChar ≠ after.head?.any isWordChar ∧ taken = [] ∧ kept = none
  | notBefore set, _, taken, after, kept =>
      after.head?.any set.contains = false ∧ taken = [] ∧ kept = none
  | capture set, _, taken, _, kept => set.Spans taken ∧ taken ≠ [] ∧ kept = some taken

variable {p q : Pattern} {before taken after text : List Char} {kept : Option (List Char)}
variable {set : CharSet} {c d : Cursor}

@[simp] theorem reads_append :
    (p ++ q).Reads before taken after kept ↔
      ∃ first second, taken = first ++ second ∧ ∃ early late, kept = late.or early ∧
        p.Reads before first (second ++ after) early ∧
        q.Reads (before ++ first) second after late := Iff.rfl

theorem reads_append_assoc {r : Pattern} :
    (p ++ q ++ r).Reads before taken after kept ↔
      (p ++ (q ++ r)).Reads before taken after kept := by
  simp only [reads_append]
  constructor
  · rintro ⟨_, third, rfl, _, last, rfl, ⟨first, second, rfl, early, late, rfl, one, two⟩, three⟩
    refine ⟨first, second ++ third, by simp, early, last.or late, by rw [Option.or_assoc], ?_,
      second, third, rfl, late, last, rfl, two, ?_⟩
    · rwa [List.append_assoc]
    · rwa [List.append_assoc]
  · rintro ⟨first, _, rfl, early, _, rfl, one, second, third, rfl, late, last, rfl, two, three⟩
    refine ⟨first ++ second, third, by simp, late.or early, last, by rw [Option.or_assoc],
      ⟨first, second, rfl, early, late, rfl, ?_, two⟩, ?_⟩
    · rwa [← List.append_assoc]
    · rwa [← List.append_assoc]

@[simp] theorem reads_or :
    (p ||| q).Reads before taken after kept ↔
      p.Reads before taken after kept ∨ q.Reads before taken after kept := Iff.rfl

@[simp] theorem reads_captureWord :
    (capture .word).Reads before taken after kept ↔ IsWord taken ∧ kept = some taken :=
  (and_assoc (a := CharSet.word.Spans taken)).symm

@[simp] theorem reads_atStart :
    atStart.Reads before taken after kept ↔ before = [] ∧ taken = [] ∧ kept = none := Iff.rfl

@[simp] theorem reads_atEnd :
    atEnd.Reads before taken after kept ↔ after = [] ∧ taken = [] ∧ kept = none := Iff.rfl

@[simp] theorem reads_gap :
    gap.Reads before taken after kept ↔ CharSet.blank.Spans taken ∧ kept = none := Iff.rfl

@[simp] theorem reads_one :
    (one set).Reads before taken after kept ↔
      ∃ x, set.contains x = true ∧ taken = [x] ∧ kept = none := by
  simp only [Reads, ← exists_and_right, and_assoc]

@[simp] theorem reads_upTo {stops : List Char} :
    (upTo stops).Reads before taken after kept ↔
      (CharSet.noneOf stops).Spans taken ∧ kept = none := Iff.rfl

theorem reads_chars_iff {spell : Char → CharSet} {token : List Char} :
    (chars spell token).Reads before taken after kept ↔
      List.Forall₂ (fun x c => (spell x).contains c = true) token taken ∧ kept = none := by
  induction token generalizing before taken kept with
  | nil => simp [chars, Reads]
  | cons x token induction =>
      have here : ∀ {before taken after : List Char} {kept : Option (List Char)},
          (one (spell x)).Reads before taken after kept ↔
            (∃ c, (spell x).contains c = true ∧ taken = [c]) ∧ kept = none := Iff.rfl
      cases token with
      | nil =>
          rw [chars, here]
          simp [List.forall₂_cons_left_iff]
      | cons y token =>
          rw [chars, reads_append]
          · simp only [here, induction]
            constructor
            · rintro ⟨_, others, rfl, _, _, rfl, ⟨⟨c, member, rfl⟩, rfl⟩, spelled, rfl⟩
              exact ⟨.cons member spelled, rfl⟩
            · rintro ⟨spelled, rfl⟩
              obtain ⟨c, others, member, further, rfl⟩ := List.forall₂_cons_left_iff.mp spelled
              exact ⟨[c], others, rfl, none, none, rfl, ⟨⟨c, member, rfl⟩, rfl⟩, further, rfl⟩
          · exact List.cons_ne_nil y token

theorem reads_chars {token : List Char} :
    (chars .only token).Reads before taken after kept ↔ taken = token ∧ kept = none := by
  have same : (fun x c => (CharSet.only x).contains c = true) = Eq := by
    funext x c
    exact propext (beq_iff_eq.trans eq_comm)
  rw [reads_chars_iff, same, List.forall₂_eq_eq_eq, eq_comm]

theorem reads_litAnyCase {token : String} (ascii : ∀ x ∈ token.toList, x.toNat < 128) :
    (litAnyCase token).Reads before taken after kept ↔
      IsSpelling token.toList taken ∧ kept = none := by
  simp only [litAnyCase, reads_chars_iff, CharSet.contains_anyCase, beq_iff_eq,
    isSpelling_iff ascii]

@[simp] theorem reads_lit {token : String} :
    (lit token).Reads before taken after kept ↔ taken = token.toList ∧ kept = none := reads_chars

theorem reads_atLeastOne :
    (atLeastOne set).Reads before taken after kept ↔
      set.Spans taken ∧ taken ≠ [] ∧ kept = none := by
  constructor
  · rintro ⟨_, others, rfl, _, _, rfl, ⟨⟨x, member, rfl⟩, rfl⟩, members, rfl⟩
    exact ⟨CharSet.spans_cons.mpr ⟨member, members⟩, by simp, rfl⟩
  · rintro ⟨members, visible, rfl⟩
    cases taken with
    | nil => exact absurd rfl visible
    | cons x others =>
        obtain ⟨member, members⟩ := CharSet.spans_cons.mp members
        exact ⟨[x], others, rfl, none, none, rfl, ⟨⟨x, member, rfl⟩, rfl⟩, members, rfl⟩

@[simp] theorem reads_blanks :
    blanks.Reads before taken after kept ↔
      CharSet.blank.Spans taken ∧ taken ≠ [] ∧ kept = none := reads_atLeastOne

@[simp] theorem reads_word :
    word.Reads before taken after kept ↔ IsWord taken ∧ kept = none :=
  reads_atLeastOne.trans and_assoc.symm

@[simp] theorem reads_optional :
    (optional p).Reads before taken after kept ↔
      p.Reads before taken after kept ∨ taken = [] ∧ kept = none := Iff.rfl

theorem reads_choice {choices : List Pattern} :
    (choice choices).Reads before taken after kept ↔
      ∃ p ∈ choices, p.Reads before taken after kept := by
  induction choices with
  | nil => simp [choice]
  | cons first rest induction =>
      cases rest with
      | nil => simp [choice]
      | cons second rest =>
          change (first ||| choice (second :: rest)).Reads before taken after kept ↔ _
          simp only [reads_or, induction, List.mem_cons, exists_eq_or_imp]

theorem reads_choice_map {texts : List String} {spell : String → Pattern} :
    (choice (texts.map spell)).Reads before taken after kept ↔
      ∃ token ∈ texts, (spell token).Reads before taken after kept := by
  simp only [reads_choice, List.mem_map, exists_exists_and_eq_and]

theorem reads_anyOf {texts : List String} :
    (anyOf texts).Reads before taken after kept ↔
      (∃ token ∈ texts, taken = token.toList) ∧ kept = none := by
  rw [anyOf, reads_choice_map]
  simp only [reads_lit, ← exists_and_right, and_assoc]

theorem reads_anyOfAnyCase {texts : List String}
    (ascii : ∀ token ∈ texts, ∀ x ∈ token.toList, x.toNat < 128) :
    (anyOfAnyCase texts).Reads before taken after kept ↔
      (∃ token ∈ texts, IsSpelling token.toList taken) ∧ kept = none := by
  rw [anyOfAnyCase, reads_choice_map]
  simp only [← exists_and_right, and_assoc]
  apply exists_congr
  intro token
  apply and_congr_right
  intro listed
  exact reads_litAnyCase (ascii token listed)

theorem mem_runs_iff {count : Nat} {entry : Nat × List Char × List Char} :
    entry ∈ runs set count before after ↔
      ∃ run rest, after = run ++ rest ∧ set.Spans run ∧
        entry = (count + run.length, run.reverse ++ before, rest) := by
  induction after generalizing count before with
  | nil =>
      rw [runs, List.mem_singleton]
      constructor
      · rintro rfl
        exact ⟨[], [], rfl, set.spans_nil, rfl⟩
      · rintro ⟨run, rest, nothing, -, rfl⟩
        obtain ⟨rfl, rfl⟩ := List.nil_eq_append_iff.mp nothing
        rfl
  | cons x others induction =>
      have stepped : ∀ run rest : List Char,
          (count + 1 + run.length, run.reverse ++ x :: before, rest) =
            (count + (x :: run).length, (x :: run).reverse ++ before, rest) := by
        intro run rest
        simp [Nat.add_assoc, Nat.add_comm 1]
      simp only [List.cons_eq_append_iff]
      by_cases member : set.contains x = true
      · rw [runs, if_pos member, List.mem_append, List.mem_singleton, induction]
        constructor
        · rintro (⟨run, rest, rfl, members, rfl⟩ | rfl)
          · exact ⟨x :: run, rest, .inr ⟨run, rfl, rfl⟩, CharSet.spans_cons.mpr ⟨member, members⟩,
              stepped run rest⟩
          · exact ⟨[], x :: others, .inl ⟨rfl, rfl⟩, set.spans_nil, rfl⟩
        · rintro ⟨_, rest, ⟨rfl, rfl⟩ | ⟨run, rfl, rfl⟩, members, rfl⟩
          · exact .inr rfl
          · exact .inl ⟨run, rest, rfl, (CharSet.spans_cons.mp members).2,
              (stepped run rest).symm⟩
      · rw [runs, if_neg member, List.mem_singleton]
        constructor
        · rintro rfl
          exact ⟨[], x :: others, .inl ⟨rfl, rfl⟩, set.spans_nil, rfl⟩
        · rintro ⟨_, rest, ⟨rfl, rfl⟩ | ⟨run, rfl, rfl⟩, members, rfl⟩
          · rfl
          · exact absurd (CharSet.spans_cons.mp members).1 member

theorem exists_past_nil_iff (stands : List Char → Prop) (c d : Cursor) :
    (∃ taken rest kept, c.after = taken ++ rest ∧
      (stands rest ∧ taken = [] ∧ kept = none) ∧ d = c.past taken rest kept) ↔
      stands c.after ∧ d = c := by
  constructor
  · rintro ⟨_, rest, _, after, ⟨stands, rfl, rfl⟩, rfl⟩
    obtain rfl : c.after = rest := after
    exact ⟨stands, rfl⟩
  · rintro ⟨stands, rfl⟩
    exact ⟨[], d.after, none, rfl, ⟨stands, rfl, rfl⟩, rfl⟩

/-- The ends of a pattern are the places after what it reads. -/
theorem mem_ends_iff_reads :
    d ∈ p.ends c ↔
      ∃ taken rest kept, c.after = taken ++ rest ∧
        p.Reads c.before.reverse taken rest kept ∧ d = c.past taken rest kept := by
  induction p generalizing c d with
  | empty =>
      have stands := exists_past_nil_iff (fun _ => True) c d
      simpa [ends, Reads] using stands.symm
  | one set =>
      rw [mem_ends_one]
      constructor
      · rintro ⟨x, rest, after, member, rfl⟩
        exact ⟨[x], rest, none, after, ⟨⟨x, member, rfl⟩, rfl⟩, rfl⟩
      · rintro ⟨_, rest, _, after, ⟨⟨x, member, rfl⟩, rfl⟩, rfl⟩
        exact ⟨x, rest, after, member, rfl⟩
  | many set =>
      simp only [ends, List.mem_map, mem_runs_iff]
      constructor
      · rintro ⟨_, ⟨run, rest, after, members, rfl⟩, rfl⟩
        exact ⟨run, rest, none, after, ⟨members, rfl⟩, rfl⟩
      · rintro ⟨run, rest, _, after, ⟨members, rfl⟩, rfl⟩
        exact ⟨_, ⟨run, rest, after, members, rfl⟩, rfl⟩
  | capture set =>
      have remembered : ∀ run : List Char,
          ((run.reverse ++ c.before).take run.length).reverse = run := by
        intro run
        rw [List.take_left' List.length_reverse, List.reverse_reverse]
      simp only [ends, List.mem_filterMap, mem_runs_iff]
      constructor
      · rintro ⟨_, ⟨run, rest, after, members, rfl⟩, found⟩
        simp only [Nat.zero_add, remembered, List.length_eq_zero_iff] at found
        split at found
        next => cases found
        next visible =>
          cases found
          exact ⟨run, rest, some run, after, ⟨members, visible, rfl⟩, rfl⟩
      · rintro ⟨run, rest, _, after, ⟨members, visible, rfl⟩, rfl⟩
        refine ⟨_, ⟨run, rest, after, members, rfl⟩, ?_⟩
        simp only [Nat.zero_add, remembered, List.length_eq_zero_iff, if_neg visible]
        rfl
  | seq p q first second =>
      simp only [ends, List.mem_flatMap, first, second]
      constructor
      · rintro ⟨_, ⟨taken, left, early, after, reads, rfl⟩, others, rest, late, between, follows,
          rfl⟩
        obtain rfl : left = others ++ rest := between
        refine ⟨taken ++ others, rest, late.or early, ?_,
          ⟨taken, others, rfl, early, late, rfl, reads, ?_⟩, Cursor.past_past ..⟩
        · rw [after, List.append_assoc]
        · rwa [Cursor.reverse_before_past] at follows
      · rintro ⟨_, rest, _, after, ⟨taken, others, rfl, early, late, rfl, reads, follows⟩, rfl⟩
        refine ⟨_, ⟨taken, others ++ rest, early, ?_, reads, rfl⟩, others, rest, late, rfl, ?_,
          (Cursor.past_past ..).symm⟩
        · rw [after, List.append_assoc]
        · rwa [Cursor.reverse_before_past]
  | alt p q first second =>
      simp only [ends, List.mem_append, first, second, Reads]
      constructor
      · rintro (⟨taken, rest, kept, after, reads, rfl⟩ | ⟨taken, rest, kept, after, reads, rfl⟩)
        · exact ⟨taken, rest, kept, after, .inl reads, rfl⟩
        · exact ⟨taken, rest, kept, after, .inr reads, rfl⟩
      · rintro ⟨taken, rest, kept, after, reads | reads, rfl⟩
        · exact .inl ⟨taken, rest, kept, after, reads, rfl⟩
        · exact .inr ⟨taken, rest, kept, after, reads, rfl⟩
  | atStart =>
      have stands := exists_past_nil_iff (fun _ => c.before.reverse = []) c d
      simp only [ends, List.mem_ite_nil_right, List.mem_singleton, List.isEmpty_iff]
      rw [← List.reverse_eq_nil_iff]
      exact stands.symm
  | atEnd =>
      have stands := exists_past_nil_iff (fun rest => rest = []) c d
      simp only [ends, List.mem_ite_nil_right, List.mem_singleton, List.isEmpty_iff]
      exact stands.symm
  | wordEdge =>
      have stands := exists_past_nil_iff
        (fun rest => c.before.head?.any isWordChar ≠ rest.head?.any isWordChar) c d
      simpa [ends, Reads, Cursor.atWordEdge] using stands.symm
  | notBefore set =>
      have stands := exists_past_nil_iff (fun rest => rest.head?.any set.contains = false) c d
      simp only [ends, List.mem_ite_nil_left, List.mem_singleton, Bool.not_eq_true]
      exact stands.symm

theorem occursIn_iff_reads :
    p.occursIn text = true ↔
      ∃ before taken after kept, text = before ++ taken ++ after ∧
        p.Reads before taken after kept := by
  simp only [occursIn_iff, mem_ends_iff_reads, List.reverse_reverse]
  constructor
  · rintro ⟨before, _, _, rfl, taken, after, kept, rfl, reads, -⟩
    exact ⟨before, taken, after, kept, by rw [List.append_assoc], reads⟩
  · rintro ⟨before, taken, after, kept, rfl, reads⟩
    exact ⟨before, taken ++ after, _, by rw [List.append_assoc], taken, after, kept, rfl, reads,
      rfl⟩

theorem occursIn_or :
    (p ||| q).occursIn text = true ↔ p.occursIn text = true ∨ q.occursIn text = true := by
  simp only [occursIn_iff_reads, reads_or, and_or_left, exists_or]

theorem occursIn_append_gap : (p ++ gap).occursIn text = p.occursIn text := by
  rw [Bool.eq_iff_iff]
  constructor
  · exact occursIn_of_occursIn_append
  · intro found
    obtain ⟨before, taken, after, kept, rfl, reads⟩ := occursIn_iff_reads.mp found
    refine occursIn_iff_reads.mpr ⟨before, taken, after, kept, rfl, taken, [], ?_, kept, none, ?_,
      reads, reads_gap.mpr ⟨CharSet.spans_nil _, rfl⟩⟩
    · rw [List.append_nil]
    · rw [Option.none_or]

/-- The pattern takes just the accepted texts, wherever it stands, and remembers nothing. -/
def Takes (p : Pattern) (accepted : List Char → Prop) : Prop :=
  ∀ before taken after kept, p.Reads before taken after kept ↔ accepted taken ∧ kept = none

/-- A part of one kind, anything on the same line, and a part of another kind. -/
def Apart (first second : List Char → Prop) (taken : List Char) : Prop :=
  ∃ leading between trailing, taken = leading ++ between ++ trailing ∧
    first leading ∧ '\n' ∉ between ∧ second trailing

namespace Takes

variable {accepted following : List Char → Prop}

theorem congr (takes : p.Takes accepted) (same : ∀ taken, accepted taken ↔ following taken) :
    p.Takes following := by
  intro before taken after kept
  rw [takes, same]

theorem append (first : p.Takes accepted) (second : q.Takes following) :
    (p ++ q).Takes fun taken => ∃ leading trailing, taken = leading ++ trailing ∧
      accepted leading ∧ following trailing := by
  intro before taken after kept
  simp only [reads_append, first _ _ _ _, second _ _ _ _]
  constructor
  · rintro ⟨leading, trailing, rfl, _, _, rfl, ⟨accepts, rfl⟩, follows, rfl⟩
    exact ⟨⟨leading, trailing, rfl, accepts, follows⟩, rfl⟩
  · rintro ⟨⟨leading, trailing, rfl, accepts, follows⟩, rfl⟩
    exact ⟨leading, trailing, rfl, none, none, rfl, ⟨accepts, rfl⟩, follows, rfl⟩

theorem assoc {r : Pattern} (takes : (p ++ (q ++ r)).Takes accepted) :
    (p ++ q ++ r).Takes accepted := by
  intro before taken after kept
  rw [← takes before taken after kept, reads_append_assoc]

theorem one (set : CharSet) :
    (Pattern.one set).Takes fun taken => ∃ x, set.contains x = true ∧ taken = [x] :=
  fun _ _ _ _ => Iff.rfl

theorem many (set : CharSet) : (Pattern.many set).Takes set.Spans := fun _ _ _ _ => Iff.rfl

theorem lit (token : String) : (Pattern.lit token).Takes (· = token.toList) :=
  fun _ _ _ _ => reads_lit

theorem anyOfAnyCase {texts : List String}
    (ascii : (texts.all fun token => token.toList.all (·.toNat < 128)) = true) :
    (Pattern.anyOfAnyCase texts).Takes fun taken =>
      ∃ token ∈ texts, IsSpelling token.toList taken := by
  intro before taken after kept
  apply reads_anyOfAnyCase
  simpa only [List.all_eq_true, decide_eq_true_eq] using ascii

theorem or (first : p.Takes accepted) (second : q.Takes following) :
    (p ||| q).Takes fun taken => accepted taken ∨ following taken := by
  intro before taken after kept
  rw [reads_or, first, second, or_and_right]

theorem apart (first : p.Takes accepted) (second : q.Takes following) :
    (p ++ stretch ++ q).Takes (Apart accepted following) := by
  refine ((first.append (.many _)).append second).congr ?_
  intro taken
  simp only [CharSet.spans_noneOf_singleton]
  constructor
  · rintro ⟨_, trailing, rfl, ⟨leading, between, rfl, accepts, unbroken⟩, follows⟩
    exact ⟨leading, between, trailing, rfl, accepts, unbroken, follows⟩
  · rintro ⟨leading, between, trailing, rfl, accepts, unbroken, follows⟩
    exact ⟨leading ++ between, trailing, rfl, ⟨leading, between, rfl, accepts, unbroken⟩, follows⟩

theorem one_append {least : Nat}
    (run : p.Takes fun taken => set.Spans taken ∧ least ≤ taken.length) :
    (Pattern.one set ++ p).Takes fun taken => set.Spans taken ∧ least + 1 ≤ taken.length := by
  refine ((one set).append run).congr ?_
  intro taken
  constructor
  · rintro ⟨_, others, rfl, ⟨x, member, rfl⟩, members, long⟩
    exact ⟨CharSet.spans_cons.mpr ⟨member, members⟩, Nat.succ_le_succ long⟩
  · rintro ⟨members, long⟩
    cases taken with
    | nil => cases long
    | cons x others =>
        obtain ⟨member, members⟩ := CharSet.spans_cons.mp members
        exact ⟨[x], others, rfl, ⟨x, member, rfl⟩, members, Nat.le_of_succ_le_succ long⟩

theorem occursIn_iff (takes : p.Takes accepted) :
    p.occursIn text = true ↔ ∃ taken, accepted taken ∧ taken <:+: text := by
  simp only [occursIn_iff_reads, takes _ _ _ _]
  constructor
  · rintro ⟨before, taken, after, _, rfl, accepts, rfl⟩
    exact ⟨taken, accepts, before, after, rfl⟩
  · rintro ⟨taken, accepts, before, after, rfl⟩
    exact ⟨before, taken, after, none, rfl, accepts, rfl⟩

end Takes

/-- A search stops at the first end from the leftmost place that has one. -/
theorem searchFrom_eq_some {skipped : List Char} (found : p.searchFrom skipped text = some d) :
    ∃ before after, text = before ++ after ∧
      (p.ends ⟨before.reverse ++ skipped, after, none⟩).head? = some d ∧
      ∀ shorter longer, text = shorter ++ longer →
        p.ends ⟨shorter.reverse ++ skipped, longer, none⟩ ≠ [] →
          before.length ≤ shorter.length := by
  induction text generalizing skipped with
  | nil =>
      rw [searchFrom, run_some_eq_head?] at found
      exact ⟨[], [], rfl, found, fun _ _ _ _ => Nat.zero_le _⟩
  | cons x text induction =>
      rw [searchFrom_cons, run_some_eq_head?] at found
      cases here : (p.ends ⟨skipped, x :: text, none⟩).head? with
      | some first =>
          rw [here] at found
          exact ⟨[], x :: text, rfl, here.trans found, fun _ _ _ _ => Nat.zero_le _⟩
      | none =>
          rw [here, Option.none_or] at found
          obtain ⟨before, after, rfl, first, leftmost⟩ := induction found
          refine ⟨x :: before, after, rfl, by simpa using first, ?_⟩
          intro shorter longer split stops
          cases shorter with
          | nil =>
              obtain rfl : x :: (before ++ after) = longer := split
              exact absurd (List.head?_eq_none_iff.mp here) stops
          | cons y shorter =>
              obtain ⟨rfl, same⟩ := List.cons.inj split
              have order := leftmost shorter longer same (by simpa using stops)
              simpa using order

/-- What a search finds is read from the leftmost place of the text where anything is. -/
theorem exists_reads_of_search (found : p.search text = some d) :
    ∃ before taken, text = before ++ taken ++ d.after ∧
      p.Reads before taken d.after d.captured ∧
      ∀ earlier other rest kept, text = earlier ++ other ++ rest →
        p.Reads earlier other rest kept → before.length ≤ earlier.length := by
  obtain ⟨before, after, rfl, first, leftmost⟩ := searchFrom_eq_some found
  obtain ⟨taken, rest, kept, rfl, reads, rfl⟩ := mem_ends_iff_reads.mp (List.mem_of_head? first)
  refine ⟨before, taken, by simp [Cursor.past], by simpa [Cursor.past] using reads, ?_⟩
  intro earlier other rest kept split reads
  apply leftmost earlier (other ++ rest) (by simpa using split)
  apply List.ne_nil_of_mem
  exact mem_ends_iff_reads.mpr ⟨other, rest, kept, rfl, by simpa using reads, rfl⟩

/-- The pattern remembers the same in all the ways to match from one place. -/
def Decided (p : Pattern) : Prop :=
  ∀ {before taken rest kept other more later}, p.Reads before taken rest kept →
    p.Reads before other more later → taken ++ rest = other ++ more → kept = later

/-- The pattern takes `taken` after `before`, and nothing from any place further left. -/
def ReadsFirst (p : Pattern) (text before taken : List Char) (kept : Option (List Char)) : Prop :=
  ∃ after, text = before ++ taken ++ after ∧ p.Reads before taken after kept ∧
    ∀ earlier other rest later, text = earlier ++ other ++ rest →
      p.Reads earlier other rest later → before.length ≤ earlier.length

theorem captureIn_eq_some_iff {name : List Char} (decided : p.Decided) :
    p.captureIn text = some name ↔ ∃ before taken, p.ReadsFirst text before taken (some name) := by
  constructor
  · intro captured
    obtain ⟨d, found, kept⟩ := Option.bind_eq_some_iff.mp captured
    obtain ⟨before, taken, whole, reads, leftmost⟩ := exists_reads_of_search found
    exact ⟨before, taken, d.after, whole, kept ▸ reads, leftmost⟩
  · rintro ⟨before, taken, after, whole, reads, leftmost⟩
    have occurs : p.occursIn text = true :=
      occursIn_iff_reads.mpr ⟨before, taken, after, some name, whole, reads⟩
    obtain ⟨d, found⟩ := Option.isSome_iff_exists.mp occurs
    obtain ⟨before', taken', whole', reads', leftmost'⟩ := exists_reads_of_search found
    have same : before ++ (taken ++ after) = before' ++ (taken' ++ d.after) := by
      rw [← List.append_assoc, ← whole, whole', List.append_assoc]
    obtain ⟨rfl, following⟩ := List.append_inj same <| Nat.le_antisymm
      (leftmost before' taken' d.after d.captured whole' reads')
      (leftmost' before taken after (some name) whole reads)
    rw [captureIn, found, Option.bind_some, decided reads reads' following]

theorem head?_runs (set : CharSet) (count : Nat) (before after : List Char) :
    (runs set count before after).head? =
      some (count + (after.takeWhile set.contains).length,
        (after.takeWhile set.contains).reverse ++ before, after.dropWhile set.contains) := by
  induction after generalizing count before with
  | nil => rfl
  | cons x rest induction =>
      by_cases member : set.contains x = true
      · rw [runs, if_pos member, List.head?_append, induction, Option.some_or]
        simp [member, Nat.add_assoc, Nat.add_comm 1]
      · simp [runs, member]

theorem after_of_head?_ends_capture (first : ((capture set).ends c).head? = some d) :
    d.after = c.after.dropWhile set.contains := by
  obtain ⟨run, rest, _, after, ⟨members, visible, -⟩, -⟩ :=
    mem_ends_iff_reads.mp (List.mem_of_head? first)
  have taken : c.after.takeWhile set.contains ≠ [] := by
    cases run with
    | nil => exact absurd rfl visible
    | cons x run => simp [after, (CharSet.spans_cons.mp members).1]
  have longest := head?_runs set 0 c.before c.after
  rw [ends] at first
  cases found : runs set 0 c.before c.after with
  | nil =>
      rw [found] at longest
      cases longest
  | cons entry others =>
      rw [found] at first longest
      cases longest
      simp only [List.filterMap_cons, Nat.zero_add, List.length_eq_zero_iff, if_neg taken,
        List.head?_cons, Option.some.injEq] at first
      rw [← first]

/-- A capture at the end of a pattern leaves no character of its set behind. -/
theorem stopsAt_of_search (found : (p ++ capture set).search text = some d) :
    set.StopsAt d.after := by
  obtain ⟨before, after, -, first, -⟩ := searchFrom_eq_some found
  change ((p.ends _).flatMap (capture set).ends).head? = some d at first
  rw [List.head?_flatMap] at first
  obtain ⟨between, -, first⟩ := List.exists_of_findSome?_eq_some first
  rw [after_of_head?_ends_capture first]
  exact set.stopsAt_dropWhile between.after

end Pattern

end LineLint
