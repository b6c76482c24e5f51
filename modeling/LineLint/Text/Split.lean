namespace LineLint

variable {α : Type}

def extendFirst (c : α) : List (List α) → List (List α)
  | [] => [[c]]
  | first :: rest => (c :: first) :: rest

/-- A text with `n` separators has `n + 1` parts, the empty text one empty part. -/
def split [DecidableEq α] (separator : α) (text : List α) : List (List α) :=
  text.foldr (fun c parts => if c = separator then [] :: parts else extendFirst c parts) [[]]

/-- The parts with the separator between them. -/
def joinWith (separator : α) : List (List α) → List α
  | [] => []
  | [last] => last
  | first :: rest => first ++ separator :: joinWith separator rest

section

variable [DecidableEq α]

@[simp] theorem split_nil (separator : α) : split separator [] = [[]] := rfl

@[simp] theorem split_cons_self (separator : α) (text : List α) :
    split separator (separator :: text) = [] :: split separator text := by
  simp [split]

theorem split_cons_of_ne {separator c : α} (inside : c ≠ separator) (text : List α) :
    split separator (c :: text) = extendFirst c (split separator text) := by
  simp [split, inside]

theorem split_ne_nil (separator : α) (text : List α) : split separator text ≠ [] := by
  cases text with
  | nil => simp
  | cons c rest =>
      by_cases ends : c = separator
      · simp [ends]
      · rw [split_cons_of_ne ends]
        cases split separator rest <;> simp [extendFirst]

omit [DecidableEq α] in
theorem extendFirst_append {parts : List (List α)} (nonempty : parts ≠ []) (c : α)
    (more : List (List α)) : extendFirst c (parts ++ more) = extendFirst c parts ++ more := by
  cases parts with
  | nil => exact absurd rfl nonempty
  | cons first rest => rfl

theorem split_append (separator : α) (first second : List α) :
    split separator (first ++ separator :: second) =
      split separator first ++ split separator second := by
  induction first with
  | nil => exact split_cons_self separator second
  | cons c rest induction =>
      by_cases ends : c = separator
      · subst ends
        rw [List.cons_append, split_cons_self, split_cons_self, induction, List.cons_append]
      · rw [List.cons_append, split_cons_of_ne ends, split_cons_of_ne ends, induction,
          extendFirst_append (split_ne_nil separator rest)]

theorem joinWith_split (separator : α) (text : List α) :
    joinWith separator (split separator text) = text := by
  induction text with
  | nil => rfl
  | cons c rest induction =>
      cases parts : split separator rest with
      | nil => exact absurd parts (split_ne_nil separator rest)
      | cons first others =>
          rw [parts] at induction
          by_cases ends : c = separator
          · subst ends
            rw [split_cons_self, parts, joinWith, induction]
            · simp
            · simp
          · rw [split_cons_of_ne ends, parts, extendFirst]
            cases others with
            | nil => simpa [joinWith] using induction
            | cons second more => simpa [joinWith] using induction

variable {separator : α} {back text : List α}

theorem takeWhile_reverse_append (absent : separator ∉ back) (front : List α) :
    (front ++ back).reverse.takeWhile (· ≠ separator) =
      back.reverse ++ front.reverse.takeWhile (· ≠ separator) := by
  have apart : ∀ c ∈ back.reverse, decide (c ≠ separator) = true := by
    intro c member
    rw [decide_eq_true_iff]
    rintro rfl
    exact absent (List.mem_reverse.mp member)
  rw [List.reverse_append, List.takeWhile_append_of_pos apart]

theorem takeWhile_reverse_append_cons (absent : separator ∉ back) (front : List α) :
    ((front ++ separator :: back).reverse.takeWhile (· ≠ separator)).reverse = back := by
  rw [List.append_cons, takeWhile_reverse_append absent]
  simp

omit [DecidableEq α] in
theorem exists_last_separator (member : separator ∈ text) :
    ∃ front back, text = front ++ separator :: back ∧ separator ∉ back := by
  obtain ⟨back, front, whole, absent⟩ := List.eq_append_cons_of_mem (List.mem_reverse.mpr member)
  refine ⟨front.reverse, back.reverse, ?_, by simpa using absent⟩
  rw [← List.reverse_reverse text, whole]
  simp

end

end LineLint
