import LineLint.Pattern.Basic

namespace LineLint

/-- A place in a text: the characters before it, nearest first, those after it, and what the
pattern has remembered so far. -/
structure Cursor where
  before : List Char
  after : List Char
  captured : Option (List Char) := none
  deriving Repr, DecidableEq

namespace Cursor

def start (text : List Char) : Cursor := ⟨[], text, none⟩

def atWordEdge (c : Cursor) : Bool := c.before.head?.any isWordChar != c.after.head?.any isWordChar

end Cursor

namespace Pattern

variable {α : Type}

/-- Takes characters of `set` while there are any, then offers every length to `k`, the longest
first. The number counts the characters taken. -/
def takeRun (set : CharSet) (k : Nat → List Char → List Char → Option α) :
    (taken : Nat) → (before after : List Char) → Option α
  | taken, before, [] => k taken before []
  | taken, before, c :: rest =>
      if set.contains c then
        match takeRun set k (taken + 1) (c :: before) rest with
        | some found => some found
        | none => k taken before (c :: rest)
      else k taken before (c :: rest)

/-- Tries the ways in which the pattern matches at a cursor, in the order of preference, and answers
with the first of them from which `k` succeeds. -/
def run : Pattern → (Cursor → Option α) → Cursor → Option α
  | empty, k, c => k c
  | one set, k, c =>
      match c.after with
      | [] => none
      | x :: rest => if set.contains x then k ⟨x :: c.before, rest, c.captured⟩ else none
  | many set, k, c =>
      takeRun set (fun _ before after => k ⟨before, after, c.captured⟩) 0 c.before c.after
  | seq p q, k, c => p.run (q.run k) c
  | alt p q, k, c =>
      match p.run k c with
      | some found => some found
      | none => q.run k c
  | atStart, k, c => if c.before.isEmpty then k c else none
  | atEnd, k, c => if c.after.isEmpty then k c else none
  | wordEdge, k, c => if c.atWordEdge then k c else none
  | notBefore set, k, c => if c.after.head?.any set.contains then none else k c
  | capture set, k, c =>
      takeRun set
        (fun taken before after =>
          if taken = 0 then none else k ⟨before, after, some (before.take taken).reverse⟩)
        0 c.before c.after

/-- The first match from some place on, leftmost place first. -/
def searchFrom (p : Pattern) : (before after : List Char) → Option Cursor
  | before, [] => p.run some ⟨before, [], none⟩
  | before, c :: rest =>
      match p.run some ⟨before, c :: rest, none⟩ with
      | some found => some found
      | none => searchFrom p (c :: before) rest

def search (p : Pattern) (text : List Char) : Option Cursor := p.searchFrom [] text

def occursIn (p : Pattern) (text : List Char) : Bool := (p.search text).isSome

def captureIn (p : Pattern) (text : List Char) : Option (List Char) :=
  (p.search text).bind (·.captured)

@[simp] theorem run_empty (k : Cursor → Option α) (c : Cursor) : empty.run k c = k c := rfl

@[simp] theorem run_append (p q : Pattern) (k : Cursor → Option α) (c : Cursor) :
    (p ++ q).run k c = p.run (q.run k) c := rfl

end Pattern

end LineLint
