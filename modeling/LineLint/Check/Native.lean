import LineLint.Scan

namespace LineLint

open Pattern

namespace CFamily

def getsCall : Rule where
  severity := .critical
  category := "C/C++"
  message := "Dangerous gets() function"
  description := "gets() does not check buffer bounds and was removed from C11."
  suggestion := "Use fgets() instead: fgets(buffer, size, stdin)"
  pattern := wordEdge ++ spaced ["gets", "("]
  anchors := ["gets"]

def twoArguments (name : String) : Pattern :=
  wordEdge ++ spaced [name, "("] ++ someUpTo [','] ++ lit "," ++ gap ++ someUpTo [')'] ++ lit ")"

def unboundedCopy : Rule where
  severity := .critical
  category := "C/C++"
  message := "Unbounded string operation"
  description := "strcpy/strcat can cause buffer overflows."
  suggestion := "Use strncpy/strncat with size limits, or prefer safer alternatives."
  pattern := twoArguments "strcpy" ||| twoArguments "strcat"
  anchors := ["strcpy", "strcat"]

def formatString : Rule where
  severity := .critical
  category := "C/C++"
  message := "Format string vulnerability"
  description := "printf with %s using unsanitized input can cause format string attacks."
  suggestion := "Use printf(\"%s\", variable) instead of printf(variable)"
  pattern :=
    spaced ["printf", "("] ++ upTo [')'] ++ lit "%s" ++ upTo [')'] ++ spaced [")", "("] ++
      upTo [')'] ++ anyOf ["scanf", "gets", "fgets"]
  anchors := ["printf"]

def unboundedScan : Rule where
  severity := .warning
  category := "C/C++"
  message := "scanf without width limit"
  description := "scanf %s has no buffer size limit."
  suggestion := "Use width specifier: scanf(\"%99s\", buffer) for a 100-byte buffer."
  pattern := spaced ["scanf", "(", "\"%"] ++ upTo ['"'] ++ lit "s\""
  anchors := ["scanf"]

def uncheckedMalloc : Rule where
  severity := .warning
  category := "C/C++"
  message := "Unchecked malloc return"
  description := "malloc can return NULL on failure."
  suggestion := "Check the return value of malloc before use."
  pattern :=
    wordEdge ++ spaced ["malloc", "("] ++ someUpTo [')'] ++ lit ")" ++ gap ++ optional (lit ";") ++
      gap ++ atEnd
  veto := some (lit "if")
  anchors := ["malloc"]

def leadingRules : List Rule :=
  [getsCall, unboundedCopy, formatString, unboundedScan, uncheckedMalloc]

def nullComparison : Rule where
  severity := .info
  category := "C/C++"
  message := "Pointer comparison style"
  description := "Consider using implicit check: if (ptr) instead of if (ptr == NULL)"
  suggestion := "Modern C/C++ style prefers: if (ptr) or if (!ptr)"
  pattern :=
    spaced ["if", "("] ++ gap ++ word ++ gap ++ lit "==" ++ gap ++ anyOf ["NULL", "nullptr"] ++
      gap ++ lit ")"
  anchors := ["=="]

def todoComment : Rule where
  severity := .info
  category := "Code Quality"
  message := "TODO comment"
  description := "There is an unfinished task marker in the code."
  suggestion := "Address the TODO or create a tracking issue."
  pattern := spaced ["//", "TODO"] ||| spaced ["/*", "TODO"]
  anchors := ["TODO"]

def trailingRules : List Rule := [nullComparison, todoComment]

def doubleFree : Notice where
  severity := .critical
  category := "C/C++"
  message := "Double free vulnerability"
  description := "This memory was already freed. Double free can cause crashes or security issues."
  suggestion := "Ensure memory is only freed once, or set pointer to NULL after freeing."
  anchors := ["free"]

def freeStatement : Pattern :=
  spaced ["free", "("] ++ someUpTo [')'] ++ lit ")" ++ gap ++ optional (lit ";") ++ gap ++ atEnd

def freedName : Pattern := spaced ["free", "("] ++ gap ++ capture .word ++ gap ++ lit ")"

def freeOf (name : List Char) : Pattern :=
  spaced ["free", "("] ++ gap ++ chars .only name ++ gap ++ lit ")"

def freed? (line : Line) : Option (List Char) :=
  if freeStatement.occursIn line then freedName.captureIn line else none

/-- The text before the first occurrence of a line's text. An equal line further up therefore
hides what was freed between the two. -/
def textBefore (text : List Char) (line : Line) : List Char :=
  text.take ((offset? line text).getD 0)

def freesTwice (text : List Char) (line : Line) : Bool :=
  (freed? line).any fun name => (freeOf name).occursIn (textBefore text line)

def doubleFrees (text : List Char) (number : Nat) (line : Line) : List Finding :=
  if freesTwice text line then [doubleFree.atAnchor number line] else []

def check (text : List Char) : List Finding :=
  scan
    (fun number line _ =>
      Rule.check leadingRules number line ++ doubleFrees text number line ++
        Rule.check trailingRules number line)
    text

end CFamily

namespace Rust

def unwrapCall : Rule where
  severity := .warning
  category := "Rust"
  message := "unwrap() can panic"
  description := "unwrap() will panic if the value is None or Err."
  suggestion := "Use proper error handling with ? or match."
  pattern := lit ".unwrap()"
  anchors := ["unwrap"]

def expectCall : Rule where
  severity := .warning
  category := "Rust"
  message := "expect() can panic"
  description := "expect() will panic if the value is None or Err."
  suggestion := "Use proper error handling with ? or match."
  pattern := lit ".expect("
  anchors := ["expect"]

def unsafeBlock : Rule where
  severity := .warning
  category := "Rust"
  message := "unsafe block"
  description := "unsafe blocks bypass Rust's safety guarantees."
  suggestion := "Minimize unsafe code and document safety invariants."
  pattern := spaced ["unsafe", "\x7b"]
  anchors := ["unsafe"]

def todoComment : Rule where
  severity := .info
  category := "Code Quality"
  message := "TODO comment"
  description := "There is an unfinished task marker."
  suggestion := "Address the TODO."
  pattern := spaced ["//", "TODO"]
  anchors := ["TODO"]

def rules : List Rule := [unwrapCall, expectCall, unsafeBlock, todoComment]

end Rust

end LineLint
