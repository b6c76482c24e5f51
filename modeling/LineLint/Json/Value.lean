import LineLint.Number.Binary64
import LineLint.Text.CodePoint

namespace LineLint.Json

inductive Value
  | null
  | bool (value : Bool)
  | integer (value : Int)
  | decimal (value : Binary64)
  | text (value : Text)
  | array (items : List Value)
  /-- The members in the order in which they are written. -/
  | object (members : List (Text × Value))
  deriving Inhabited, Repr

abbrev Members := List (Text × Value)

namespace Members

/-- A later member of the same name takes the place of the earlier one. -/
def put (name : Text) (value : Value) : Members → Members
  | [] => [(name, value)]
  | (other, old) :: rest =>
      if other = name then (name, value) :: rest else (other, old) :: put name value rest

def ofList (entries : List (Text × Value)) : Members :=
  entries.foldl (fun members entry => put entry.1 entry.2 members) []

def get? (members : Members) (name : String) : Option Value := members.lookup (.plain name)

/-- The member of a name; one that is missing counts as null. -/
def getD (members : Members) (name : String) : Value := (get? members name).getD .null

end Members

namespace Value

def ofNat (n : Nat) : Value := integer n

abbrev ofString (characters : String) : Value := text characters

def ofOption {α : Type} (encode : α → Value) : Option α → Value
  | some value => encode value
  | none => null

/-- Null, false, zero, and empty texts, arrays and objects count as absent. -/
def isPresent : Value → Bool
  | null => false
  | bool value => value
  | integer value => value != 0
  | decimal value => !value.isZero
  | text value => !value.isEmpty
  | array items => !items.isEmpty
  | object members => !members.isEmpty

mutual

/-- Whether a value can be written in UTF-8 as standard JSON, which has no surrogates and no numbers
that are not finite. -/
def isStandard : Value → Bool
  | .decimal x => x.isFinite
  | .text t => t.isPlain
  | .array items => areStandard items
  | .object members => haveStandard members
  | .null | .bool _ | .integer _ => true

def areStandard : List Value → Bool
  | [] => true
  | first :: rest => first.isStandard && areStandard rest

def haveStandard : List (Text × Value) → Bool
  | [] => true
  | (name, value) :: rest => name.isPlain && value.isStandard && haveStandard rest

end

mutual

/-- How many arrays and objects stand inside each other. -/
def depth : Value → Nat
  | .array items => depthOfItems items + 1
  | .object members => depthOfMembers members + 1
  | _ => 0

def depthOfItems : List Value → Nat
  | [] => 0
  | first :: rest => max first.depth (depthOfItems rest)

def depthOfMembers : List (Text × Value) → Nat
  | [] => 0
  | (_, value) :: rest => max value.depth (depthOfMembers rest)

end

end Value

end LineLint.Json
