namespace LineLint

/-- Spaces of every width, tabs, line breaks and the information separators. The zero-width
space, the word joiner and the byte order mark are not blank. -/
def isBlank (c : Char) : Bool :=
  let n := c.toNat
  (9 ≤ n && n ≤ 13) || (28 ≤ n && n ≤ 32) || n == 0x85 || n == 0xA0 || n == 0x1680 ||
    (0x2000 ≤ n && n ≤ 0x200A) || n == 0x2028 || n == 0x2029 || n == 0x202F ||
    n == 0x205F || n == 0x3000

def stripLeft (text : List Char) : List Char := text.dropWhile isBlank

def stripRight (text : List Char) : List Char := (stripLeft text.reverse).reverse

def strip (text : List Char) : List Char := stripRight (stripLeft text)

@[simp] theorem strip_nil : strip [] = [] := rfl

theorem stripLeft_cons_of_blank {c : Char} (blank : isBlank c = true) (text : List Char) :
    stripLeft (c :: text) = stripLeft text := by
  simp [stripLeft, blank]

end LineLint
