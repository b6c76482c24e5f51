import LineLint.Finding
import LineLint.Pattern.Search

namespace LineLint

structure FunctionSyntax where
  opening : Pattern
  name : Pattern
  /-- The name of a function whose first line shows none. -/
  unnamed : String
  onStripped : Bool := false
  deriving Repr, DecidableEq

namespace FunctionSyntax

def subject (spelling : FunctionSyntax) (line : Line) : Line :=
  if spelling.onStripped then strip line else line

def opens (spelling : FunctionSyntax) (line : Line) : Bool :=
  spelling.opening.occursIn (spelling.subject line)

def nameIn (spelling : FunctionSyntax) (line : Line) : String :=
  ((spelling.name.captureIn (spelling.subject line)).map String.ofList).getD spelling.unnamed

end FunctionSyntax

/-- A function with its first line; `length` is the distance from there to its last line. -/
structure BraceSpan where
  start : Nat
  header : Line
  name : String
  length : Nat
  deriving Repr, DecidableEq

namespace BraceSpan

/-- The depth is the balance of braces since the last opening line; it keeps running between
functions. -/
structure Tracker where
  inside : Bool := false
  start : Nat := 0
  header : Line := []
  name : String := ""
  depth : Int := 0
  deriving Repr, DecidableEq

def balance (line : Line) : Int := (line.count '{' : Int) - line.count '}'

namespace Tracker

def enter (spelling : FunctionSyntax) (tracker : Tracker) (number : Nat) (line : Line) : Tracker :=
  if spelling.opens line then ⟨true, number, line, spelling.nameIn line, 0⟩ else tracker

/-- One line: the tracker after it, and the function that ends there. -/
def feed (spelling : FunctionSyntax) (tracker : Tracker) (number : Nat) (line : Line) :
    Tracker × Option BraceSpan :=
  let entered := tracker.enter spelling number line
  let balanced := { entered with depth := entered.depth + balance line }
  if balanced.inside && balanced.depth == 0 && line.contains '}' then
    ({ balanced with inside := false },
      some ⟨balanced.start, balanced.header, balanced.name, number - balanced.start⟩)
  else (balanced, none)

end Tracker

/-- The report on a function that has ended, if it is longer than `limit`; it is filed under the
function's first line. -/
def reportLong (limit : Nat) (notice : BraceSpan → Notice) (span : Option BraceSpan) :
    List Finding :=
  match span with
  | some span => if limit < span.length then [(notice span).at span.start span.header] else []
  | none => []

end BraceSpan

end LineLint
