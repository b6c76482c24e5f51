import LineLint.Json.Value

namespace LineLint.Json.Value

mutual

def isSame : Value → Value → Bool
  | .null, .null => true
  | .bool set, .bool other => set == other
  | .integer n, .integer other => n == other
  | .decimal x, .decimal other => x == other
  | .text held, .text other => held == other
  | .array items, .array others => areSame items others
  | .object members, .object others => haveSame members others
  | _, _ => false

def areSame : List Value → List Value → Bool
  | [], [] => true
  | first :: rest, other :: others => first.isSame other && areSame rest others
  | _, _ => false

def haveSame : List (Text × Value) → List (Text × Value) → Bool
  | [], [] => true
  | (name, value) :: rest, (otherName, other) :: others =>
      name == otherName && value.isSame other && haveSame rest others
  | _, _ => false

end

mutual

theorem isSame_iff (value other : Value) : value.isSame other = true ↔ value = other := by
  cases value with
  | array items => cases other <;> simp [isSame, areSame_iff items]
  | object members => cases other <;> simp [isSame, haveSame_iff members]
  | _ => cases other <;> simp [isSame]

theorem areSame_iff (items others : List Value) : areSame items others = true ↔ items = others := by
  cases items with
  | nil => cases others <;> simp [areSame]
  | cons first rest =>
      cases others with
      | nil => simp [areSame]
      | cons other others => simp [areSame, isSame_iff first, areSame_iff rest]

theorem haveSame_iff (members others : List (Text × Value)) :
    haveSame members others = true ↔ members = others := by
  cases members with
  | nil => cases others <;> simp [haveSame]
  | cons first rest =>
      obtain ⟨name, value⟩ := first
      cases others with
      | nil => simp [haveSame]
      | cons other others =>
          obtain ⟨otherName, other⟩ := other
          simp [haveSame, isSame_iff value, haveSame_iff rest]

end

instance : DecidableEq Value := fun value other => decidable_of_iff _ (isSame_iff value other)

end LineLint.Json.Value
