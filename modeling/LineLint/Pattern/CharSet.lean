import LineLint.Text.Blank
import LineLint.Text.Case
import LineLint.Text.Digit
import LineLint.Text.Word

namespace LineLint

inductive CharSet
  | only (c : Char)
  /-- The characters that equal `c` when case is ignored. -/
  | anyCase (c : Char)
  | oneOf (members : List Char)
  | noneOf (excluded : List Char)
  | blank
  | digit
  | word
  deriving Repr, DecidableEq

namespace CharSet

def contains : CharSet → Char → Bool
  | only d, c => c == d
  | anyCase d, c => foldCase c == foldCase d
  | oneOf members, c => members.contains c
  | noneOf excluded, c => !excluded.contains c
  | blank, c => isBlank c
  | digit, c => isDecimalDigit c
  | word, c => isWordChar c

@[simp] theorem contains_only (c d : Char) : (only d).contains c = (c == d) := rfl

@[simp] theorem contains_anyCase (c d : Char) :
    (anyCase d).contains c = (foldCase c == foldCase d) := rfl

@[simp] theorem contains_oneOf (c : Char) (members : List Char) :
    (oneOf members).contains c = members.contains c := rfl

@[simp] theorem contains_noneOf (c : Char) (excluded : List Char) :
    (noneOf excluded).contains c = !excluded.contains c := rfl

@[simp] theorem contains_blank (c : Char) : blank.contains c = isBlank c := rfl

@[simp] theorem contains_digit (c : Char) : digit.contains c = isDecimalDigit c := rfl

@[simp] theorem contains_word (c : Char) : word.contains c = isWordChar c := rfl

end CharSet

end LineLint
