import LineLint.Text.Split

namespace LineLint

abbrev Line := List Char

/-- Only the line feed ends a line; every other character stays inside. -/
def lines (text : List Char) : List Line := split '\n' text

/-- The line of a number counted from one; out of range it is empty. -/
def lineAt (all : List Line) : Int → Line
  | .ofNat (n + 1) => all.getD n []
  | _ => []

/-- The line after the one at a position counted from zero. -/
def nextLine? (all : List Line) (position : Nat) : Option Line := all[position + 1]?

/-- The text with every carriage return, alone or before a line feed, as a line feed. -/
def normalizeBreaks : List Char → List Char
  | [] => []
  | '\r' :: '\n' :: rest => '\n' :: normalizeBreaks rest
  | '\r' :: rest => '\n' :: normalizeBreaks rest
  | c :: rest => c :: normalizeBreaks rest

@[simp] theorem lines_nil : lines [] = [[]] := rfl

theorem lines_ne_nil (text : List Char) : lines text ≠ [] := split_ne_nil '\n' text

theorem lines_append (first second : List Char) :
    lines (first ++ '\n' :: second) = lines first ++ lines second := split_append '\n' first second

end LineLint
