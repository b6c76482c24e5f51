import LineLint.Proofs.Scan.Numbered
import LineLint.Proofs.Text.Token

namespace LineLint

/-- The lines before a number, each with its line feed. -/
def textAbove (all : List Line) (number : Nat) : List Char :=
  (all.take (number - 1)).flatMap (· ++ ['\n'])

theorem joinWith_append {separator : Char} {first rest : List (List Char)} (more : rest ≠ []) :
    joinWith separator (first ++ rest) =
      first.flatMap (· ++ [separator]) ++ joinWith separator rest := by
  induction first with
  | nil => rfl
  | cons part parts induction =>
      have more : parts ++ rest ≠ [] := List.append_ne_nil_of_right_ne_nil parts more
      rw [List.cons_append, joinWith, induction]
      · simp
      · exact more

theorem exists_joinWith_cons (separator : Char) (part : List Char) (parts : List (List Char)) :
    ∃ rest, joinWith separator (part :: parts) = part ++ rest := by
  cases parts with
  | nil => exact ⟨[], (List.append_nil part).symm⟩
  | cons second others => exact ⟨_, rfl⟩

theorem exists_eq_textAbove {text : List Char} {number : Nat}
    (inside : number ∈ lineNumbers (lines text)) :
    ∃ rest, text = textAbove (lines text) number ++ lineAt (lines text) number ++ rest := by
  obtain ⟨first, last⟩ := mem_lineNumbers.mp inside
  obtain ⟨position, rfl⟩ := Nat.exists_eq_add_of_le' first
  obtain ⟨rest, started⟩ := exists_joinWith_cons '\n' (lineAt (lines text) (position + 1 : Nat))
    ((lines text).drop (position + 1))
  have shown : (lines text).drop position ≠ [] := by
    rw [drop_eq_lineAt_cons last]
    exact List.cons_ne_nil _ _
  refine ⟨rest, ?_⟩
  calc text = joinWith '\n' ((lines text).take position ++ (lines text).drop position) := by
        rw [List.take_append_drop, lines, joinWith_split]
    _ = textAbove (lines text) (position + 1) ++ joinWith '\n' ((lines text).drop position) :=
        joinWith_append shown
    _ = _ := by rw [drop_eq_lineAt_cons last, started, List.append_assoc]

section

variable {text : List Char} {number : Nat} (inside : number ∈ lineNumbers (lines text))

include inside

theorem take_textAbove :
    text.take (textAbove (lines text) number).length = textAbove (lines text) number := by
  obtain ⟨rest, whole⟩ := exists_eq_textAbove inside
  rw [congrArg (List.take _) whole, List.append_assoc, List.take_left]

theorem lineAt_prefix_drop :
    lineAt (lines text) number <+: text.drop (textAbove (lines text) number).length := by
  obtain ⟨rest, whole⟩ := exists_eq_textAbove inside
  rw [congrArg (List.drop _) whole, List.append_assoc, List.drop_left]
  exact List.prefix_append _ rest

theorem lineAt_infix_text : lineAt (lines text) number <:+: text :=
  (lineAt_prefix_drop inside).isInfix.trans (List.drop_suffix _ text).isInfix

end

theorem not_mem_of_mem_split {separator : Char} {text part : List Char}
    (member : part ∈ split separator text) : separator ∉ part := by
  induction text generalizing part with
  | nil =>
      obtain rfl := List.mem_singleton.mp member
      exact List.not_mem_nil
  | cons c rest induction =>
      by_cases ends : c = separator
      · subst ends
        rw [split_cons_self] at member
        rcases List.mem_cons.mp member with rfl | later
        · exact List.not_mem_nil
        · exact induction later
      · rw [split_cons_of_ne ends] at member
        cases parts : split separator rest with
        | nil => exact absurd parts (split_ne_nil separator rest)
        | cons first others =>
            rw [parts] at member induction
            rcases List.mem_cons.mp member with rfl | later
            · rw [List.mem_cons, not_or]
              exact ⟨Ne.symm ends, induction List.mem_cons_self⟩
            · exact induction (List.mem_cons_of_mem first later)

theorem lineFeed_not_mem_lineAt (text : List Char) (number : Nat) :
    '\n' ∉ lineAt (lines text) number := by
  cases number with
  | zero => exact List.not_mem_nil
  | succ position =>
      rw [lineAt_succ, List.getD_eq_getElem?_getD]
      cases here : (lines text)[position]? with
      | none => exact List.not_mem_nil
      | some line => exact not_mem_of_mem_split (List.mem_of_getElem? here)

theorem lineAt_extendFirst {all : List Line} (nonempty : all ≠ []) (c : Char) (position : Nat) :
    lineAt (extendFirst c all) (position + 1 : Nat) =
      if position = 0 then c :: lineAt all 1 else lineAt all (position + 1 : Nat) := by
  cases all with
  | nil => exact absurd rfl nonempty
  | cons line rest => cases position <;> rfl

section

variable {token : List Char} (unbroken : '\n' ∉ token)

include unbroken

theorem prefix_lineAt_one (after : List Char) : token <+: lineAt (lines (token ++ after)) 1 := by
  induction token with
  | nil => exact List.nil_prefix
  | cons c token induction =>
      rw [List.mem_cons, not_or] at unbroken
      have extended := lineAt_extendFirst (split_ne_nil '\n' (token ++ after)) c 0
      rw [List.cons_append, lines, split_cons_of_ne (Ne.symm unbroken.1)]
      exact extended ▸ List.cons_prefix_cons.mpr ⟨rfl, induction unbroken.2⟩

/-- A token stands in the line that is reached after the line feeds before it. -/
theorem infix_lineAt_count (before after : List Char) :
    token <:+: lineAt (lines (before ++ token ++ after)) (before.count '\n' + 1 : Nat) := by
  induction before with
  | nil => exact (prefix_lineAt_one unbroken after).isInfix
  | cons c before induction =>
      by_cases ends : c = '\n'
      · subst ends
        rw [List.count_cons_self, List.cons_append, List.cons_append, lines, split_cons_self]
        exact induction
      · rw [List.count_cons_of_ne ends, List.cons_append, List.cons_append, lines,
          split_cons_of_ne ends, lineAt_extendFirst (split_ne_nil _ _)]
        split
        next first =>
          rw [first] at induction
          exact induction.trans (List.suffix_cons c _).isInfix
        next => exact induction

end

section

variable {all others : List Line} {number : Nat}

theorem textAbove_eq_of_take_eq (same : all.take number = others.take number) :
    textAbove all number = textAbove others number := by
  have shorter : all.take (number - 1) = others.take (number - 1) := by
    have order : number - 1 ≤ number := Nat.sub_le number 1
    calc all.take (number - 1) = (all.take number).take (number - 1) := by
          rw [List.take_take, Nat.min_eq_left order]
      _ = others.take (number - 1) := by rw [same, List.take_take, Nat.min_eq_left order]
  rw [textAbove, shorter, textAbove]

theorem lineAt_eq_of_take_eq (same : all.take number = others.take number) :
    lineAt all number = lineAt others number := by
  cases number with
  | zero => rfl
  | succ position =>
      have here := congrArg (·[position]?) same
      simp only [List.getElem?_take, Nat.lt_add_one, if_true] at here
      rw [lineAt_succ, lineAt_succ, List.getD_eq_getElem?_getD, here, List.getD_eq_getElem?_getD]

theorem mem_lineNumbers_of_take_eq (same : all.take number = others.take number)
    (inside : number ∈ lineNumbers all) : number ∈ lineNumbers others := by
  obtain ⟨first, last⟩ := mem_lineNumbers.mp inside
  have count := congrArg List.length same
  simp only [List.length_take] at count
  exact mem_lineNumbers.mpr ⟨first, by omega⟩

end

end LineLint
