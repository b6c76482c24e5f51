namespace LineLint

/-- A character, or a surrogate: one of the code points that are no characters, numbered from the
least of them. -/
inductive CodePoint
  | char (c : Char)
  | surrogate (number : Fin 0x800)
  deriving Repr, DecidableEq

namespace CodePoint

def toNat : CodePoint → Nat
  | char c => c.toNat
  | surrogate number => 0xD800 + number

def ofNat (n : Nat) : CodePoint :=
  if inside : 0xD800 ≤ n ∧ n < 0xE000 then surrogate ⟨n - 0xD800, by omega⟩
  else char (Char.ofNat n)

/-- The bytes of a code point in the names of the system: UTF-8 for a character, and a byte that is
no UTF-8 for a surrogate from U+DC80 to U+DCFF. -/
def systemBytes? : CodePoint → Option (List UInt8)
  | char c => some (String.utf8EncodeChar c)
  | surrogate number =>
      if 0x480 ≤ number.val && number.val < 0x500 then some [UInt8.ofNat (number - 0x400)] else none

end CodePoint

def codePoints (text : List Char) : List CodePoint := text.map .char

@[simp] theorem codePoints_nil : codePoints [] = [] := rfl

@[simp] theorem codePoints_cons (c : Char) (text : List Char) :
    codePoints (c :: text) = .char c :: codePoints text := rfl

@[simp] theorem codePoints_append (first second : List Char) :
    codePoints (first ++ second) = codePoints first ++ codePoints second :=
  List.map_append

/-- A text of characters, or one with surrogates: the characters before the first of them, it, and
what follows. -/
inductive Text
  | plain (text : String)
  | broken (before : String) (surrogate : Fin 0x800) (after : List CodePoint)
  deriving Repr, DecidableEq

namespace Text

instance : Coe String Text := ⟨plain⟩

def points : Text → List CodePoint
  | plain text => codePoints text.toList
  | broken before number after => codePoints before.toList ++ .surrogate number :: after

/-- The characters before the first surrogate, with it and what follows. -/
def splitPlain : List CodePoint → List Char × Option (Fin 0x800 × List CodePoint)
  | [] => ([], none)
  | .char c :: rest =>
      let (before, surrogate) := splitPlain rest
      (c :: before, surrogate)
  | .surrogate number :: rest => ([], some (number, rest))

def ofPoints (points : List CodePoint) : Text :=
  match splitPlain points with
  | (characters, none) => plain (String.ofList characters)
  | (before, some (number, after)) => broken (String.ofList before) number after

@[simp] theorem ofPoints_codePoints (text : List Char) :
    ofPoints (codePoints text) = plain (String.ofList text) := by
  have split : splitPlain (codePoints text) = (text, none) := by
    induction text with
    | nil => rfl
    | cons c rest induction => rw [codePoints_cons, splitPlain, induction]
  rw [ofPoints, split]

def isPlain : Text → Bool
  | plain _ => true
  | broken .. => false

def isEmpty : Text → Bool
  | plain text => text.isEmpty
  | broken .. => false

/-- A text between two others. -/
def wrap (before : String) (text : Text) (after : String) : Text :=
  match text with
  | plain text => plain (before ++ text ++ after)
  | broken start number rest => broken (before ++ start) number (rest ++ codePoints after.toList)

/-- The characters of a text, each surrogate among them replaced by U+FFFD. -/
def characters (text : Text) : List Char :=
  text.points.map fun
    | .char c => c
    | .surrogate _ => '\uFFFD'

/-- The bytes by which the system knows a path, if it has any. -/
def systemBytes? (path : Text) : Option (List UInt8) :=
  (path.points.mapM CodePoint.systemBytes?).map List.flatten

end Text

end LineLint
