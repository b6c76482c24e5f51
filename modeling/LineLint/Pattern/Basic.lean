import LineLint.Pattern.CharSet

namespace LineLint

/-- A run of a set is as long as it can be and gives characters back one by one when what follows
fails; of two alternatives the first is preferred. -/
inductive Pattern
  | empty
  | one (set : CharSet)
  | many (set : CharSet)
  | seq (first second : Pattern)
  | alt (first second : Pattern)
  | atStart
  | atEnd
  /-- Between a word character and something else, or at an end of the text beside one. -/
  | wordEdge
  /-- Not in front of a character of the set. -/
  | notBefore (set : CharSet)
  /-- A run of at least one character, which is remembered. -/
  | capture (set : CharSet)
  deriving Repr, DecidableEq

namespace Pattern

instance : Append Pattern := ⟨seq⟩

instance : OrOp Pattern := ⟨alt⟩

def chars (set : Char → CharSet) : List Char → Pattern
  | [] => empty
  | [c] => one (set c)
  | c :: rest => one (set c) ++ chars set rest

def lit (text : String) : Pattern := chars .only text.toList

def litAnyCase (text : String) : Pattern := chars .anyCase text.toList

def choice : List Pattern → Pattern
  | [] => one (.oneOf [])
  | [last] => last
  | first :: rest => first ||| choice rest

def anyOf (texts : List String) : Pattern := choice (texts.map lit)

def anyOfAnyCase (texts : List String) : Pattern := choice (texts.map litAnyCase)

def optional (p : Pattern) : Pattern := p ||| empty

def atLeastOne (set : CharSet) : Pattern := one set ++ many set

def gap : Pattern := many .blank

def blanks : Pattern := atLeastOne .blank

def word : Pattern := atLeastOne .word

def stretch : Pattern := many (.noneOf ['\n'])

def quote : Pattern := one (.oneOf ['"', '\''])

def upTo (stops : List Char) : Pattern := many (.noneOf stops)

def someUpTo (stops : List Char) : Pattern := atLeastOne (.noneOf stops)

/-- Texts with optional blanks between them: `spaced ["eval", "("]`. -/
def spaced : List String → Pattern
  | [] => empty
  | [last] => lit last
  | first :: rest => lit first ++ gap ++ spaced rest

end Pattern

end LineLint
