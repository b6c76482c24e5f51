import LineLint.Text.Utf8
import Mathlib.Algebra.Group.Nat.Defs

namespace LineLint.Utf8

/-- The byte that holds six bits of a number, after the first ones of a character. -/
def following (bits : Nat) : Nat := bits % 64 + 0x80

theorem toNat_following (bits : Nat) : (UInt8.ofNat (following bits)).toNat = following bits := by
  have small : following bits < 256 := by
    unfold following
    omega
  rw [UInt8.toNat_ofNat', Nat.mod_eq_of_lt small]

/-- The last `count` bytes of a character's number. -/
def continuation (value : Nat) : (count : Nat) → List UInt8
  | 0 => []
  | count + 1 => UInt8.ofNat (following (value / 64 ^ count)) :: continuation value count

/-- What has been read is the beginning of a character, of which one byte and `count` more are to
come. -/
structure Pending.Begins (pending : Pending) (value count : Nat) : Prop where
  bits : pending.bits = value / 64 ^ (count + 1)
  missing : pending.missing = count + 1
  accepts : pending.accepts (following (value / 64 ^ count)) = true

theorem Pending.Begins.extend {pending : Pending} {value count : Nat}
    (begins : pending.Begins value count) :
    pending.extend (following (value / 64 ^ count)) = value / 64 ^ count := by
  have bits : pending.bits = value / 64 ^ count / 64 := by
    rw [begins.bits, Nat.pow_succ, Nat.div_div_eq_div_mul]
  unfold Pending.extend following
  omega

theorem decodeFrom_continuation {pending : Pending} {value count : Nat}
    (begins : pending.Begins value count) (rest : List UInt8) :
    decodeFrom (some pending) (continuation value (count + 1) ++ rest) =
      Char.ofNat value :: decodeFrom none rest := by
  induction count generalizing pending with
  | zero =>
      rw [continuation, List.cons_append, decodeFrom, toNat_following, if_pos begins.accepts,
        if_pos (Nat.le_of_eq begins.missing), begins.extend, Nat.pow_zero, Nat.div_one]
      rfl
  | succ count induction =>
      have several : ¬ pending.missing ≤ 1 := by
        rw [begins.missing]
        omega
      rw [continuation, List.cons_append, decodeFrom, toNat_following, if_pos begins.accepts,
        if_neg several, begins.extend]
      apply induction
      constructor
      · rfl
      · rw [begins.missing]
        rfl
      · simp only [Pending.accepts, following]
        simp
        omega

section

variable {byte value : Nat}

theorem lead_of_two (least : 0xC2 ≤ byte) (greatest : byte < 0xE0) :
    lead byte = .first ⟨byte - 0xC0, 1, 0x80, 0xBF⟩ := by
  rw [lead, if_neg (by omega), if_neg (by omega), if_pos greatest]

theorem lead_of_three (least : 0xE0 ≤ byte) (greatest : byte < 0xF0) :
    lead byte = .first ⟨byte - 0xE0, 2, if byte = 0xE0 then 0xA0 else 0x80,
      if byte = 0xED then 0x9F else 0xBF⟩ := by
  rw [lead, if_neg (by omega), if_neg (by omega), if_neg (by omega)]
  by_cases lowest : byte = 0xE0
  · subst lowest
    rfl
  · by_cases surrogates : byte = 0xED
    · subst surrogates
      rfl
    · simp only [lowest, surrogates, greatest, if_true, if_false]

theorem lead_of_four (least : 0xF0 ≤ byte) (greatest : byte ≤ 0xF4) :
    lead byte = .first ⟨byte - 0xF0, 3, if byte = 0xF0 then 0x90 else 0x80,
      if byte = 0xF4 then 0x8F else 0xBF⟩ := by
  rw [lead, if_neg (by omega), if_neg (by omega), if_neg (by omega), if_neg (by omega),
    if_neg (by omega), if_neg (by omega)]
  by_cases lowest : byte = 0xF0
  · subst lowest
    rfl
  · by_cases highest : byte = 0xF4
    · subst highest
      rfl
    · rw [if_neg lowest, if_pos (by omega), if_neg lowest, if_neg highest]

theorem accepts_iff {pending : Pending} :
    pending.accepts byte = true ↔ pending.least ≤ byte ∧ byte ≤ pending.greatest := by
  simp [Pending.accepts]

/-- The first of two bytes, of three and of four tell the rest of a character's number. -/
theorem exists_lead_two (least : 0x80 ≤ value) (greatest : value ≤ 0x7FF) :
    ∃ pending, lead (value / 64 % 0x20 + 0xC0) = .first pending ∧ pending.Begins value 0 := by
  refine ⟨_, lead_of_two (by omega) (by omega), ?_, rfl, ?_⟩
  · simp only [Nat.zero_add, Nat.pow_one]
    omega
  · rw [accepts_iff]
    simp only [following, Nat.pow_zero]
    omega

theorem exists_lead_three (least : 0x800 ≤ value) (greatest : value ≤ 0xFFFF)
    (valid : value < 0xD800 ∨ 0xDFFF < value) :
    ∃ pending, lead (value / 4096 % 0x10 + 0xE0) = .first pending ∧ pending.Begins value 1 := by
  refine ⟨_, lead_of_three (by omega) (by omega), ?_, rfl, ?_⟩
  · simp only [Nat.reduceAdd, Nat.reducePow]
    omega
  · rw [accepts_iff]
    simp only [following, Nat.pow_one]
    constructor <;> split <;> omega

theorem exists_lead_four (least : 0x10000 ≤ value) (greatest : value < 0x110000) :
    ∃ pending, lead (value / 262144 % 0x08 + 0xF0) = .first pending ∧ pending.Begins value 2 := by
  refine ⟨_, lead_of_four (by omega) (by omega), ?_, rfl, ?_⟩
  · simp only [Nat.reduceAdd, Nat.reducePow]
    omega
  · rw [accepts_iff]
    simp only [following, Nat.reducePow]
    constructor <;> split <;> omega

end

theorem decodeFrom_first {first value count : Nat} {pending : Pending} (byte : first < 256)
    (leads : lead first = .first pending) (begins : pending.Begins value count)
    (rest : List UInt8) :
    decodeFrom none (UInt8.ofNat first :: (continuation value (count + 1) ++ rest)) =
      Char.ofNat value :: decodeFrom none rest := by
  have number : (UInt8.ofNat first).toNat = first := by
    rw [UInt8.toNat_ofNat', Nat.mod_eq_of_lt byte]
  rw [decodeFrom, number, leads]
  exact decodeFrom_continuation begins rest

theorem decodeFrom_utf8EncodeChar (c : Char) (rest : List UInt8) :
    decodeFrom none (String.utf8EncodeChar c ++ rest) = c :: decodeFrom none rest := by
  obtain ⟨value, number⟩ : ∃ value, c.val.toNat = value := ⟨_, rfl⟩
  have same : Char.ofNat value = c := by rw [← number]; exact Char.ofNat_toNat c
  have valid : value < 0xD800 ∨ 0xDFFF < value ∧ value < 0x110000 := number ▸ c.valid
  unfold String.utf8EncodeChar
  simp only [number]
  split
  next one =>
    have byte : (UInt8.ofNat value).toNat = value := by
      rw [UInt8.toNat_ofNat', Nat.mod_eq_of_lt (by omega)]
    have whole : lead value = .whole c := by
      rw [lead, if_pos (by omega), same]
    rw [List.singleton_append, decodeFrom, byte, whole]
  next more =>
    split
    next two =>
      obtain ⟨pending, leads, begins⟩ := exists_lead_two (by omega) two
      rw [← same]
      simpa [continuation, following] using decodeFrom_first (by omega) leads begins rest
    next more =>
      split
      next three =>
        obtain ⟨pending, leads, begins⟩ := exists_lead_three (by omega) three (by omega)
        rw [← same]
        simpa [continuation, following] using decodeFrom_first (by omega) leads begins rest
      next four =>
        obtain ⟨pending, leads, begins⟩ := exists_lead_four (by omega) (by omega : value < 0x110000)
        rw [← same]
        simpa [continuation, following] using decodeFrom_first (by omega) leads begins rest

theorem decode_encode (text : List Char) : decode (encode text) = text := by
  unfold decode encode
  induction text with
  | nil => rfl
  | cons c rest induction => rw [List.flatMap_cons, decodeFrom_utf8EncodeChar, induction]

end LineLint.Utf8
