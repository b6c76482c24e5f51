import LineLint.Text.Lines

namespace LineLint

inductive LineBreak
  | lineFeed
  | carriageReturn
  /-- A carriage return, then a line feed. -/
  | both
  deriving Repr, DecidableEq

def LineBreak.text : LineBreak → List Char
  | lineFeed => ['\n']
  | carriageReturn => ['\r']
  | both => ['\r', '\n']

/-- The text with a line break in place of each line feed. -/
def writeBreaks (ending : LineBreak) (text : List Char) : List Char :=
  text.flatMap fun c => if c = '\n' then ending.text else [c]

@[simp] theorem writeBreaks_nil (ending : LineBreak) : writeBreaks ending [] = [] := rfl

@[simp] theorem writeBreaks_lineFeed_cons (ending : LineBreak) (text : List Char) :
    writeBreaks ending ('\n' :: text) = ending.text ++ writeBreaks ending text := rfl

theorem writeBreaks_cons_of_ne (ending : LineBreak) {c : Char} (inside : c ≠ '\n')
    (text : List Char) : writeBreaks ending (c :: text) = c :: writeBreaks ending text := by
  rw [writeBreaks, List.flatMap_cons, if_neg inside]
  rfl

/-- The lines with one more character at the end of each but the last. -/
def endLines (x : Char) : List Line → List Line
  | [] => []
  | [last] => [last]
  | line :: rest => (line ++ [x]) :: endLines x rest

section

variable {x : Char}

theorem endLines_cons {rest : List Line} (more : rest ≠ []) (line : Line) :
    endLines x (line :: rest) = (line ++ [x]) :: endLines x rest := by
  cases rest with
  | nil => exact absurd rfl more
  | cons next rest => rfl

@[simp] theorem length_endLines (all : List Line) : (endLines x all).length = all.length := by
  induction all with
  | nil => rfl
  | cons line rest induction =>
      cases rest with
      | nil => rfl
      | cons next rest => simpa [endLines] using induction

theorem drop_endLines (all : List Line) (count : Nat) :
    (endLines x all).drop count = endLines x (all.drop count) := by
  induction all generalizing count with
  | nil => simp [endLines]
  | cons line rest induction =>
      cases count with
      | zero => rfl
      | succ count =>
          cases rest with
          | nil => simp [endLines]
          | cons next rest =>
              rw [endLines_cons (List.cons_ne_nil next rest), List.drop_succ_cons,
                List.drop_succ_cons, induction]

theorem endLines_extendFirst (c : Char) (all : List Line) :
    endLines x (extendFirst c all) = extendFirst c (endLines x all) := by
  cases all with
  | nil => rfl
  | cons line rest => cases rest <;> rfl

end

theorem lines_writeBreaks (text : List Char) :
    lines (writeBreaks .both text) = endLines '\r' (lines text) := by
  induction text with
  | nil => rfl
  | cons c rest induction =>
      by_cases ends : c = '\n'
      · subst ends
        rw [writeBreaks_lineFeed_cons]
        change split '\n' ('\r' :: '\n' :: writeBreaks .both rest) = _
        rw [split_cons_of_ne (by decide), split_cons_self, lines, split_cons_self,
          endLines_cons (split_ne_nil _ rest)]
        exact congrArg (['\r'] :: ·) induction
      · rw [writeBreaks_cons_of_ne _ ends, lines, split_cons_of_ne ends, lines,
          split_cons_of_ne ends, endLines_extendFirst]
        exact congrArg (extendFirst c) induction

theorem lineFeed_not_mem_writeBreaks (text : List Char) :
    '\n' ∉ writeBreaks .carriageReturn text := by
  induction text with
  | nil => exact List.not_mem_nil
  | cons c rest induction =>
      by_cases ends : c = '\n'
      · subst ends
        simpa [LineBreak.text] using induction
      · rw [writeBreaks_cons_of_ne _ ends, List.mem_cons]
        exact not_or.mpr ⟨fun same => ends same.symm, induction⟩

theorem normalizeBreaks_cons_of_ne {c : Char} (other : c ≠ '\r') (text : List Char) :
    normalizeBreaks (c :: text) = c :: normalizeBreaks text := by
  cases text <;> simp [normalizeBreaks, other]

theorem normalizeBreaks_carriageReturn_cons {text : List Char} (alone : '\n' ∉ text) :
    normalizeBreaks ('\r' :: text) = '\n' :: normalizeBreaks text := by
  cases text with
  | nil => rfl
  | cons c rest =>
      have other : c ≠ '\n' := fun same => alone (same ▸ List.mem_cons_self)
      rw [normalizeBreaks]
      intro later same
      exact other (List.cons.inj same).1

theorem normalizeBreaks_writeBreaks (ending : LineBreak) {text : List Char} (plain : '\r' ∉ text) :
    normalizeBreaks (writeBreaks ending text) = text := by
  induction text with
  | nil => rfl
  | cons c rest induction =>
      rw [List.mem_cons, not_or] at plain
      have kept := induction plain.2
      by_cases ends : c = '\n'
      · subst ends
        rw [writeBreaks_lineFeed_cons]
        cases ending with
        | lineFeed =>
            rw [LineBreak.text, List.singleton_append, normalizeBreaks_cons_of_ne (by decide), kept]
        | carriageReturn =>
            rw [LineBreak.text, List.singleton_append,
              normalizeBreaks_carriageReturn_cons (lineFeed_not_mem_writeBreaks rest), kept]
        | both => exact congrArg ('\n' :: ·) kept
      · rw [writeBreaks_cons_of_ne _ ends, normalizeBreaks_cons_of_ne (Ne.symm plain.1), kept]

end LineLint
