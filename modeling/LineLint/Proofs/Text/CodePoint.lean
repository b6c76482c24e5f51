import LineLint.Text.CodePoint
import Mathlib.Data.List.Basic

namespace LineLint

theorem zero_ne_ofNat {byte : Nat} (least : 0 < byte) (greatest : byte < 256) :
    0 ≠ UInt8.ofNat byte := by
  intro same
  have number := congrArg UInt8.toNat same
  rw [UInt8.toNat_ofNat', Nat.mod_eq_of_lt greatest] at number
  exact absurd number (Nat.ne_of_lt least)

theorem zero_not_mem_utf8EncodeChar {c : Char} (other : c ≠ '\x00') :
    0 ∉ String.utf8EncodeChar c := by
  obtain ⟨value, number⟩ : ∃ value, c.val.toNat = value := ⟨_, rfl⟩
  have positive : 0 < value := by
    apply Nat.pos_of_ne_zero
    rintro rfl
    exact other (Char.ext (UInt32.toNat_inj.mp number))
  unfold String.utf8EncodeChar
  simp only [number]
  split
  next one =>
    rw [List.mem_singleton]
    exact zero_ne_ofNat positive (by omega)
  -- Each byte of a longer character has its highest bit set.
  all_goals
    have tail : ∀ bits, 0 ≠ UInt8.ofNat (bits % 64 + 128) := fun bits =>
      zero_ne_ofNat (by omega) (by omega)
  next =>
    split
    next =>
      simp only [List.mem_cons, List.not_mem_nil, or_false, not_or]
      exact ⟨zero_ne_ofNat (by omega) (by omega), tail _⟩
    next =>
      split
      next =>
        simp only [List.mem_cons, List.not_mem_nil, or_false, not_or]
        exact ⟨zero_ne_ofNat (by omega) (by omega), tail _, tail _⟩
      next =>
        simp only [List.mem_cons, List.not_mem_nil, or_false, not_or]
        exact ⟨zero_ne_ofNat (by omega) (by omega), tail _, tail _, tail _⟩

namespace CodePoint

/-- The surrogates that stand for bytes are U+DC80 to U+DCFF. -/
theorem exists_systemBytes_iff {point : CodePoint} :
    (∃ bytes, point.systemBytes? = some bytes) ↔
      ∀ number, point = .surrogate number → 0x480 ≤ number.val ∧ number.val < 0x500 := by
  cases point with
  | char c => exact iff_of_true ⟨_, rfl⟩ nofun
  | surrogate number =>
      rw [systemBytes?]
      constructor
      · rintro ⟨bytes, encoded⟩ other same
        cases same
        split at encoded
        next inside => simpa using inside
        next => cases encoded
      · intro inside
        exact ⟨_, if_pos (by simpa using inside number rfl)⟩

theorem zero_mem_systemBytes_iff {point : CodePoint} {bytes : List UInt8}
    (encoded : point.systemBytes? = some bytes) : 0 ∈ bytes ↔ point = .char '\x00' := by
  cases point with
  | char c =>
      cases encoded
      by_cases null : c = '\x00'
      · subst null
        exact iff_of_true (by decide) rfl
      · exact iff_of_false (zero_not_mem_utf8EncodeChar null) fun same => null (char.inj same)
  | surrogate number =>
      rw [systemBytes?] at encoded
      split at encoded
      next inside =>
        cases encoded
        simp only [Bool.and_eq_true, decide_eq_true_eq] at inside
        refine iff_of_false ?_ nofun
        rw [List.mem_singleton]
        exact zero_ne_ofNat (by omega) (by omega)
      next => cases encoded

end CodePoint

namespace Text

/-- A path that the system can be asked for: its surrogates stand for bytes, and none of its
characters is null. -/
structure Nameable (path : Text) : Prop where
  bytes : ∀ number, .surrogate number ∈ path.points → 0x480 ≤ number.val ∧ number.val < 0x500
  clean : .char '\x00' ∉ path.points

variable {points : List CodePoint} {parts : List (List UInt8)}

theorem exists_mapM_systemBytes_iff :
    (∃ parts, points.mapM CodePoint.systemBytes? = some parts) ↔
      ∀ number, .surrogate number ∈ points → 0x480 ≤ number.val ∧ number.val < 0x500 := by
  induction points with
  | nil => exact iff_of_true ⟨[], rfl⟩ (by simp)
  | cons point rest induction =>
      simp only [List.mapM_cons, Option.bind_eq_bind, Option.bind_eq_some_iff, List.mem_cons]
      constructor
      · rintro ⟨parts, bytes, first, others, later, -⟩ number (here | among)
        · exact CodePoint.exists_systemBytes_iff.mp ⟨bytes, first⟩ number here.symm
        · exact induction.mp ⟨others, later⟩ number among
      · intro inside
        obtain ⟨bytes, first⟩ := CodePoint.exists_systemBytes_iff.mpr fun number same =>
          inside number (.inl same.symm)
        obtain ⟨others, later⟩ := induction.mpr fun number among => inside number (.inr among)
        exact ⟨_, bytes, first, others, later, rfl⟩

theorem zero_mem_flatten_iff (encoded : points.mapM CodePoint.systemBytes? = some parts) :
    0 ∈ parts.flatten ↔ .char '\x00' ∈ points := by
  induction points generalizing parts with
  | nil =>
      cases encoded
      simp
  | cons point rest induction =>
      simp only [List.mapM_cons, Option.bind_eq_bind, Option.bind_eq_some_iff] at encoded
      obtain ⟨bytes, first, others, later, joined⟩ := encoded
      cases joined
      rw [List.flatten_cons, List.mem_append, List.mem_cons, induction later,
        CodePoint.zero_mem_systemBytes_iff first, eq_comm]

/-- The paths that can be asked for are those with bytes, none of them zero. -/
theorem nameable_iff {path : Text} :
    path.Nameable ↔ ∃ name, path.systemBytes? = some name ∧ 0 ∉ name := by
  simp only [systemBytes?, Option.map_eq_some_iff]
  constructor
  · intro nameable
    obtain ⟨parts, encoded⟩ := exists_mapM_systemBytes_iff.mpr nameable.bytes
    exact ⟨_, ⟨parts, encoded, rfl⟩,
      fun zero => nameable.clean ((zero_mem_flatten_iff encoded).mp zero)⟩
  · rintro ⟨name, ⟨parts, encoded, rfl⟩, clean⟩
    exact ⟨exists_mapM_systemBytes_iff.mp ⟨parts, encoded⟩,
      fun null => clean ((zero_mem_flatten_iff encoded).mpr null)⟩

theorem nameable_plain {path : String} (clean : '\x00' ∉ path.toList) : (plain path).Nameable where
  bytes := fun number member => by
    simp [points, codePoints] at member
  clean := by
    simpa [points, codePoints] using clean

end Text

end LineLint
