import LineLint.Json.Render

namespace LineLint

/-- A character with a glyph in ASCII, or the space. -/
def IsVisible (c : Char) : Prop := 32 ≤ c.toNat ∧ c.toNat < 127

instance (c : Char) : Decidable (IsVisible c) :=
  inferInstanceAs (Decidable (32 ≤ c.toNat ∧ c.toNat < 127))

/-- A text without line breaks or anything else that is not visible. -/
def OneLine (text : List Char) : Prop := ∀ c ∈ text, IsVisible c

instance (text : List Char) : Decidable (OneLine text) := List.decidableBAll _ text

theorem OneLine.lineFeed_not_mem {text : List Char} (visible : OneLine text) : '\n' ∉ text := by
  intro member
  exact absurd (visible '\n' member) (by decide)

section

variable {c : Char} {first second : List Char}

@[simp] theorem oneLine_nil : OneLine [] := by
  intro c member
  cases member

@[simp] theorem oneLine_cons : OneLine (c :: first) ↔ IsVisible c ∧ OneLine first :=
  List.forall_mem_cons

@[simp] theorem oneLine_append : OneLine (first ++ second) ↔ OneLine first ∧ OneLine second :=
  List.forall_mem_append

theorem OneLine.sublist (visible : OneLine second) (sublist : first.Sublist second) :
    OneLine first :=
  fun c member => visible c (sublist.subset member)

theorem oneLine_flatMap {α : Type} {items : List α} {write : α → List Char}
    (each : ∀ item, OneLine (write item)) : OneLine (items.flatMap write) := by
  intro c member
  obtain ⟨item, -, written⟩ := List.mem_flatMap.mp member
  exact each item c written

end

theorem isVisible_of_isDigit {c : Char} (digit : c.isDigit = true) : IsVisible c := by
  obtain ⟨least, greatest⟩ := Char.isDigit_iff_toNat.mp digit
  have zero : '0'.toNat = 48 := rfl
  have nine : '9'.toNat = 57 := rfl
  exact ⟨by omega, by omega⟩

theorem oneLine_natural (n : Nat) : OneLine (toString n).toList := by
  intro c member
  rw [Nat.toString_eq_repr, Nat.toList_repr] at member
  exact isVisible_of_isDigit (Nat.isDigit_of_mem_toDigits (by decide) (by decide) member)

theorem oneLine_integer (n : Int) : OneLine (toString n).toList := by
  cases n with
  | ofNat n => exact oneLine_natural n
  | negSucc n =>
      change OneLine ("-" ++ toString (n + 1)).toList
      rw [String.toList_append, oneLine_append]
      exact ⟨by decide, oneLine_natural _⟩

namespace DecimalLayout

theorem oneLine_zeros (n : Nat) : OneLine (zeros n) := by
  intro c member
  rw [List.eq_of_mem_replicate member]
  decide

theorem oneLine_sign (negative : Bool) : OneLine (sign negative) := by
  cases negative <;> decide

theorem oneLine_exponentText (n : Int) : OneLine (exponentText n) := by
  unfold exponentText
  rw [oneLine_cons, oneLine_append]
  refine ⟨?_, oneLine_zeros _, oneLine_natural _⟩
  split <;> decide

variable {digits : List Char} (visible : OneLine digits)

include visible

theorem oneLine_significant : OneLine (significant digits) := by
  apply visible.sublist
  rw [significant, ← List.reverse_sublist, List.reverse_reverse]
  exact List.dropWhile_sublist _

theorem oneLine_positional (point : Int) : OneLine (positional digits point) := by
  unfold positional
  split
  next =>
    simp only [oneLine_cons, oneLine_append]
    exact ⟨by decide, by decide, oneLine_zeros _, visible⟩
  next =>
    split
    next =>
      simp only [oneLine_append]
      exact ⟨⟨visible, oneLine_zeros _⟩, by decide⟩
    next =>
      simp only [oneLine_cons, oneLine_append]
      exact ⟨visible.sublist (List.take_sublist _ _), by decide,
        visible.sublist (List.drop_sublist _ _)⟩

theorem oneLine_scientific (point : Int) : OneLine (scientific digits point) := by
  unfold scientific
  split
  next => exact oneLine_nil
  next only =>
    rw [oneLine_cons] at visible ⊢
    rw [oneLine_cons]
    exact ⟨visible.1, by decide, oneLine_exponentText _⟩
  next first rest _ =>
    rw [oneLine_cons] at visible ⊢
    rw [oneLine_cons, oneLine_append, oneLine_cons]
    exact ⟨visible.1, by decide, visible.2, by decide, oneLine_exponentText _⟩

omit visible

theorem oneLine_magnitude (layout : DecimalLayout) (r : Ratio) : OneLine (layout.magnitude r) := by
  unfold magnitude
  have visible := oneLine_significant (oneLine_natural (Binary64.shortest r).digits)
  dsimp only
  split
  next => exact oneLine_positional visible _
  next => exact oneLine_scientific visible _

theorem oneLine_render {layout : DecimalLayout} (infinity : OneLine layout.infinity.toList)
    (undefined : OneLine layout.undefined.toList) (x : Binary64) : OneLine (layout.render x) := by
  cases x with
  | finite negative significand exponent =>
      rw [render, oneLine_append]
      refine ⟨oneLine_sign _, ?_⟩
      split
      next => decide
      next => exact oneLine_magnitude _ _
  | infinite negative => exact oneLine_append.mpr ⟨oneLine_sign _, infinity⟩
  | undefined => exact undefined

end DecimalLayout

namespace Quoted

theorem isVisible_hexDigit {n : Nat} (small : n < 16) : IsVisible (hexDigit n) := by
  revert n
  decide

theorem oneLine_hex (width n : Nat) : OneLine (hex width n) := by
  induction width generalizing n with
  | zero => exact oneLine_nil
  | succ width induction =>
      rw [hex, oneLine_append, oneLine_cons]
      exact ⟨induction _, isVisible_hexDigit (Nat.mod_lt _ (by decide)), oneLine_nil⟩

end Quoted

namespace Json

theorem oneLine_unitEscape (unit : Nat) : OneLine (unitEscape unit) := by
  rw [unitEscape, oneLine_cons, oneLine_cons]
  exact ⟨by decide, by decide, Quoted.oneLine_hex _ _⟩

theorem oneLine_renderChar (c : Char) : OneLine (renderChar c) := by
  unfold renderChar
  split
  next quote =>
    have either : c = '"' ∨ c = '\\' := by simpa using quote
    rcases either with rfl | rfl <;> decide
  split
  next => decide
  split
  next => decide
  split
  next => decide
  split
  next => decide
  split
  next => decide
  split
  next visible =>
    rw [oneLine_cons]
    exact ⟨by simpa [IsVisible] using visible, oneLine_nil⟩
  next => exact oneLine_flatMap oneLine_unitEscape

theorem oneLine_renderPoint (p : CodePoint) : OneLine (renderPoint p) := by
  cases p with
  | char c => exact oneLine_renderChar c
  | surrogate number => exact oneLine_unitEscape _

theorem oneLine_renderText (text : Text) : OneLine (renderText text) := by
  rw [renderText, List.cons_append, oneLine_cons, oneLine_append]
  exact ⟨by decide, oneLine_flatMap oneLine_renderPoint, by decide⟩

mutual

theorem oneLine_renderValue (value : Value) : OneLine (renderValue value) := by
  cases value with
  | null => decide
  | bool value => cases value <;> decide
  | integer n => exact oneLine_integer n
  | decimal x =>
      have infinity : OneLine decimalLayout.infinity.toList := by decide
      exact DecimalLayout.oneLine_render infinity (by decide) x
  | text s => exact oneLine_renderText _
  | array items =>
      rw [renderValue, List.cons_append, oneLine_cons, oneLine_append]
      exact ⟨by decide, oneLine_renderItems items, by decide⟩
  | object members =>
      rw [renderValue, List.cons_append, oneLine_cons, oneLine_append]
      exact ⟨by decide, oneLine_renderMembers members, by decide⟩

theorem oneLine_renderItems (items : List Value) : OneLine (renderItems items) := by
  match items with
  | [] => exact oneLine_nil
  | [last] => exact oneLine_renderValue last
  | first :: second :: rest =>
      change OneLine (renderValue first ++ ", ".toList ++ renderItems (second :: rest))
      rw [oneLine_append, oneLine_append]
      exact ⟨⟨oneLine_renderValue first, by decide⟩, oneLine_renderItems (second :: rest)⟩

theorem oneLine_renderMembers (members : List (Text × Value)) :
    OneLine (renderMembers members) := by
  match members with
  | [] => exact oneLine_nil
  | [(name, value)] =>
      rw [renderMembers, oneLine_append, oneLine_append]
      exact ⟨⟨oneLine_renderText _, by decide⟩, oneLine_renderValue value⟩
  | (name, value) :: second :: rest =>
      change OneLine (renderText name ++ ": ".toList ++ renderValue value ++ ", ".toList ++
        renderMembers (second :: rest))
      simp only [oneLine_append]
      exact ⟨⟨⟨⟨oneLine_renderText _, by decide⟩, oneLine_renderValue value⟩, by decide⟩,
        oneLine_renderMembers (second :: rest)⟩

end

end Json

end LineLint
