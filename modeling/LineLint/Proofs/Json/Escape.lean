import LineLint.Json.Read
import LineLint.Json.Render

namespace LineLint.Json

theorem hexValue?_hexDigit {n : Nat} (small : n < 16) :
    hexValue? (Quoted.hexDigit n) = some n := by
  revert n
  decide

theorem hex_four (n : Nat) :
    Quoted.hex 4 n =
      [Quoted.hexDigit (n / 16 / 16 / 16 % 16), Quoted.hexDigit (n / 16 / 16 % 16),
        Quoted.hexDigit (n / 16 % 16), Quoted.hexDigit (n % 16)] := rfl

theorem unit?_hexDigits {n : Nat} (small : n < 0x10000) :
    unit? (.char (Quoted.hexDigit (n / 16 / 16 / 16 % 16)))
      (.char (Quoted.hexDigit (n / 16 / 16 % 16))) (.char (Quoted.hexDigit (n / 16 % 16)))
      (.char (Quoted.hexDigit (n % 16))) = some n := by
  have digit : ∀ m, hexValue? (Quoted.hexDigit (m % 16)) = some (m % 16) :=
    fun m => hexValue?_hexDigit (Nat.mod_lt m (by decide))
  simp only [unit?, hexDigit?, digit, bind, Option.bind, pure]
  congr 1
  omega

section

variable {opening rest : List CodePoint}

theorem readPieces_unitEscape {unit : Nat} (small : unit < 0x10000) (more : rest ≠ []) :
    readPieces opening (codePoints (unitEscape unit) ++ rest) =
      addPiece (.unit unit) (readPieces opening rest) := by
  obtain ⟨p, others, rfl⟩ := List.exists_cons_of_ne_nil more
  rw [unitEscape, hex_four]
  change readPieces opening (.char '\\' :: .char 'u' :: _ :: _ :: _ :: _ :: p :: others) = _
  rw [readPieces, unit?_hexDigits small]

theorem readPieces_escape {letter c : Char} (plain : letter ≠ 'u')
    (meant : escaped? (.char letter) = some c) :
    readPieces opening (.char '\\' :: .char letter :: rest) =
      addPiece (.point (.char c)) (readPieces opening rest) := by
  have other : CodePoint.char letter ≠ .char 'u' := by simpa using plain
  rw [readPieces, meant]
  · intro _ _ _ _ _ _ unit
    exact absurd unit other
  · exact other

theorem readPieces_char {c : Char} (quote : c ≠ '"') (slash : c ≠ '\\') (visible : 32 ≤ c.toNat) :
    readPieces opening (.char c :: rest) =
      addPiece (.point (.char c)) (readPieces opening rest) := by
  have kept : ¬ (CodePoint.char c).toNat < 32 := Nat.not_lt.mpr visible
  rw [readPieces, if_neg kept]
  · simpa using quote
  all_goals intros; simp_all

end

theorem joinPieces_char (c : Char) (more : List Piece) :
    joinPieces (.point (.char c) :: more) = .char c :: joinPieces more := rfl

theorem joinPieces_unit {unit : Nat} (whole : unit < 0xD800 ∨ 0xE000 ≤ unit) (more : List Piece) :
    joinPieces (.unit unit :: more) = .char (Char.ofNat unit) :: joinPieces more := by
  have kept : CodePoint.ofNat unit = .char (Char.ofNat unit) := by
    rw [CodePoint.ofNat, dif_neg]
    omega
  match more with
  | [] =>
      change [CodePoint.ofNat unit] = _
      rw [kept]
      rfl
  | .point p :: rest =>
      change CodePoint.ofNat unit :: p :: joinPieces rest = _
      rw [kept]
      rfl
  | .unit low :: rest =>
      rw [joinPieces, if_neg, kept]
      simp only [Bool.and_eq_true, decide_eq_true_eq]
      omega

theorem joinPieces_surrogates {c : Char} (beyond : 0x10000 ≤ c.toNat) (more : List Piece) :
    joinPieces (.unit (0xD800 + (c.toNat - 0x10000) / 0x400) ::
      .unit (0xDC00 + (c.toNat - 0x10000) % 0x400) :: more) = .char c :: joinPieces more := by
  have valid : c.toNat < 0xD800 ∨ 0xDFFF < c.toNat ∧ c.toNat < 0x110000 := c.valid
  have joined : 0x10000 + (0xD800 + (c.toNat - 0x10000) / 0x400 - 0xD800) * 0x400 +
      (0xDC00 + (c.toNat - 0x10000) % 0x400 - 0xDC00) = c.toNat := by omega
  rw [joinPieces, if_pos, joined, Char.ofNat_toNat]
  simp only [Bool.and_eq_true, decide_eq_true_eq]
  omega

/-- What a character is written as stands for the character, whatever comes after it. -/
structure Spells (pieces : List Piece) (c : Char) : Prop where
  read : ∀ opening rest, rest ≠ [] →
    readPieces opening (codePoints (renderChar c) ++ rest) =
      pieces.foldr addPiece (readPieces opening rest)
  joined : ∀ more, joinPieces (pieces ++ more) = .char c :: joinPieces more

theorem spells_escape {c letter : Char} (written : renderChar c = ['\\', letter])
    (plain : letter ≠ 'u') (meant : escaped? (.char letter) = some c) :
    Spells [.point (.char c)] c where
  read := fun opening rest _ => by
    rw [written]
    exact readPieces_escape plain meant
  joined := joinPieces_char c

theorem spells_units {c : Char} (written : renderChar c = (codeUnits c).flatMap unitEscape) :
    ∃ pieces, Spells pieces c := by
  have valid : c.toNat < 0xD800 ∨ 0xDFFF < c.toNat ∧ c.toNat < 0x110000 := c.valid
  rw [codeUnits] at written
  split at written
  case isTrue small =>
    refine ⟨[.unit c.toNat], fun opening rest more => ?_, fun more => ?_⟩
    · rw [written, List.flatMap_cons, List.flatMap_nil, List.append_nil]
      exact readPieces_unitEscape small more
    · have whole : c.toNat < 0xD800 ∨ 0xE000 ≤ c.toNat := by omega
      exact (joinPieces_unit whole more).trans (by rw [Char.ofNat_toNat])
  case isFalse large =>
    refine ⟨[.unit _, .unit _], fun opening rest more => ?_,
      joinPieces_surrogates (Nat.le_of_not_lt large)⟩
    rw [written]
    simp only [List.flatMap_cons, List.flatMap_nil, List.append_nil, codePoints_append,
      List.append_assoc, List.foldr_cons, List.foldr_nil]
    rw [readPieces_unitEscape (by omega) (by simp [more]), readPieces_unitEscape (by omega) more]

theorem exists_spells (c : Char) : ∃ pieces, Spells pieces c := by
  by_cases quoted : (c = '"' || c = '\\') = true
  · rcases (by simpa using quoted : c = '"' ∨ c = '\\') with rfl | rfl
    · exact ⟨_, spells_escape rfl (by decide) rfl⟩
    · exact ⟨_, spells_escape rfl (by decide) rfl⟩
  by_cases newline : c = '\n'
  · exact newline ▸ ⟨_, spells_escape rfl (by decide) rfl⟩
  by_cases carriage : c = '\r'
  · exact carriage ▸ ⟨_, spells_escape rfl (by decide) rfl⟩
  by_cases tab : c = '\t'
  · exact tab ▸ ⟨_, spells_escape rfl (by decide) rfl⟩
  by_cases back : c = '\x08'
  · exact back ▸ ⟨_, spells_escape rfl (by decide) rfl⟩
  by_cases feed : c = '\x0c'
  · exact feed ▸ ⟨_, spells_escape rfl (by decide) rfl⟩
  by_cases visible : (32 ≤ c.toNat && c.toNat < 127) = true
  · refine ⟨[.point (.char c)], fun opening rest _ => ?_, joinPieces_char c⟩
    simp only [renderChar, quoted, newline, carriage, tab, back, feed, visible, if_false, if_true]
    simp at quoted visible
    exact readPieces_char quoted.1 quoted.2 visible.1
  · apply spells_units
    simp only [renderChar, quoted, newline, carriage, tab, back, feed, visible, if_false]
    rfl

theorem foldr_addPiece (pieces more : List Piece) (rest : List CodePoint) :
    pieces.foldr addPiece (.ok (more, rest)) = .ok (pieces ++ more, rest) := by
  induction pieces with
  | nil => rfl
  | cons piece pieces induction => rw [List.foldr_cons, induction]; rfl

theorem readPieces_renderChars (opening rest : List CodePoint) (text : List Char) :
    ∃ pieces,
      readPieces opening (codePoints (text.flatMap renderChar) ++ .char '"' :: rest) =
        .ok (pieces, rest) ∧ joinPieces pieces = codePoints text := by
  induction text with
  | nil => exact ⟨[], rfl, rfl⟩
  | cons c text induction =>
      obtain ⟨more, read, joined⟩ := induction
      obtain ⟨pieces, spelled⟩ := exists_spells c
      refine ⟨pieces ++ more, ?_, ?_⟩
      · rw [List.flatMap_cons, codePoints_append, List.append_assoc,
          spelled.read _ _ (by simp), read, foldr_addPiece]
      · rw [spelled.joined, joined, codePoints_cons]

/-- A text that was written is read to its closing quote, and nothing of it is lost. -/
theorem readText_renderChars (text : List Char) (rest : List CodePoint) :
    readText (codePoints (text.flatMap renderChar) ++ .char '"' :: rest) =
      .ok (.plain (String.ofList text), rest) := by
  obtain ⟨pieces, read, joined⟩ := readPieces_renderChars
    (.char '"' :: (codePoints (text.flatMap renderChar) ++ .char '"' :: rest)) rest text
  simp only [readText, read, bind, Except.bind, pure, Except.pure, joined,
    Text.ofPoints_codePoints]

end LineLint.Json
