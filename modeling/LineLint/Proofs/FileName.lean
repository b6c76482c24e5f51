import LineLint.Language
import Mathlib.Data.List.TakeWhile

namespace LineLint

section

variable {barrier : Char} (solid : isCaseIgnorable barrier = false)
  (uncased : isCased barrier = false)

include solid uncased

theorem meetsCased_append_cons (near beyond : List Char) :
    meetsCased (near ++ barrier :: beyond) = meetsCased near := by
  induction near with
  | nil => simp [meetsCased, solid, uncased]
  | cons c near induction =>
      by_cases ignorable : isCaseIgnorable c = true
      · simpa [meetsCased, ignorable] using induction
      · simp [meetsCased, ignorable]

theorem lowerFrom_append_cons_left (near beyond text : List Char) :
    lowerFrom (near ++ barrier :: beyond) text = lowerFrom near text := by
  induction text generalizing near with
  | nil => rfl
  | cons c rest induction =>
      rw [lowerFrom_cons, lowerFrom_cons, lowerBetween, lowerBetween,
        meetsCased_append_cons solid uncased, ← List.cons_append, induction]

theorem lowerFrom_append_cons (before first rest : List Char) :
    lowerFrom before (first ++ barrier :: rest) =
      lowerFrom before first ++ (lowerChar barrier ++ lowerFrom [] rest) := by
  induction first generalizing before with
  | nil =>
      have other : (barrier == 'Σ') = false := by
        rw [beq_eq_false_iff_ne]
        rintro rfl
        revert uncased
        decide
      rw [List.nil_append, lowerFrom_cons, lowerBetween, other, lowerFrom_nil, List.nil_append]
      exact congrArg _ (lowerFrom_append_cons_left solid uncased [] before rest)
  | cons c first induction =>
      rw [List.cons_append, lowerFrom_cons, lowerFrom_cons, lowerBetween, lowerBetween,
        meetsCased_append_cons solid uncased, induction, List.append_assoc]

end

theorem lowercase_append_slash (directory name : List Char) :
    lowercase (directory ++ '/' :: name) = lowercase directory ++ '/' :: lowercase name :=
  lowerFrom_append_cons (by decide) (by decide) [] directory name

namespace Language

/-- What stands after the last slash of the path, or all of it if there is none. -/
def IsLastPart (path part : List Char) : Prop :=
  '/' ∉ part ∧ (path = part ∨ ∃ directory, path = directory ++ '/' :: part)

section

variable {directory path part : List Char}

theorem lastPart_of_not_mem (absent : '/' ∉ path) : lastPart path = path := by
  have whole := takeWhile_reverse_append absent []
  rw [List.nil_append] at whole
  rw [lastPart, whole]
  simp

theorem lastPart_append_slash (absent : '/' ∉ part) : lastPart (directory ++ '/' :: part) = part :=
  takeWhile_reverse_append_cons absent directory

theorem isLastPart_iff : IsLastPart path part ↔ part = lastPart path := by
  constructor
  · rintro ⟨absent, rfl | ⟨directory, rfl⟩⟩
    · exact (lastPart_of_not_mem absent).symm
    · exact (lastPart_append_slash absent).symm
  · rintro rfl
    by_cases slash : '/' ∈ path
    · obtain ⟨directory, part, rfl, absent⟩ := exists_last_separator slash
      rw [lastPart_append_slash absent]
      exact ⟨absent, .inr ⟨directory, rfl⟩⟩
    · rw [lastPart_of_not_mem slash]
      exact ⟨slash, .inl rfl⟩

theorem IsLastPart.prepend (last : IsLastPart path part) (directory : List Char) :
    IsLastPart (directory ++ '/' :: path) part := by
  obtain ⟨absent, rfl | ⟨inner, rfl⟩⟩ := last
  · exact ⟨absent, .inr ⟨directory, rfl⟩⟩
  · exact ⟨absent, .inr ⟨directory ++ '/' :: inner, by simp⟩⟩

end

/-- The name ends in an extension of the language, behind something other than dots. -/
def IsToldBy (language : Language) (name : List Char) : Prop :=
  ∃ stem, ∃ ending ∈ language.extensions, name = stem ++ ending.toList ∧ ∃ c ∈ stem, c ≠ '.'

section

variable {stem word name dots : List Char} {language : Language}

theorem ofExtension?_eq_some_iff {extension : List Char} :
    ofExtension? extension = some language ↔
      ∃ ending ∈ language.extensions, ending.toList = extension := by
  have each : ∀ language ∈ all, ∀ ending ∈ language.extensions,
      ofExtension? ending.toList = some language := by decide
  constructor
  · intro found
    simpa using List.find?_some found
  · rintro ⟨ending, listed, rfl⟩
    exact each language (mem_all language) ending listed

/-- An extension is a dot and a word without any. -/
theorem exists_eq_dot_cons {ending : String} (listed : ending ∈ language.extensions) :
    ∃ word, ending.toList = '.' :: word ∧ '.' ∉ word := by
  have each : ∀ language ∈ all, ∀ ending ∈ language.extensions,
      ending.toList = '.' :: ending.toList.tail ∧ '.' ∉ ending.toList.tail := by decide
  exact ⟨_, each language (mem_all language) ending listed⟩

theorem extension_append_cons (undotted : '.' ∉ word) (visible : ∃ c ∈ stem, c ≠ '.') :
    extension (stem ++ '.' :: word) = '.' :: word := by
  have remains : stem.dropWhile (· = '.') ≠ [] := by
    simpa [List.dropWhile_eq_nil_iff] using visible
  have dropped : (stem ++ '.' :: word).dropWhile (· = '.') =
      stem.dropWhile (· = '.') ++ '.' :: word := by
    rw [List.dropWhile_append, if_neg (by simpa using remains)]
  rw [extension, dropped, if_pos (by simp), takeWhile_reverse_append_cons undotted]

theorem extension_of_leading (leading : ∀ c ∈ dots, c = '.') (undotted : '.' ∉ word) :
    extension (dots ++ word) = [] := by
  have dropped : (dots ++ word).dropWhile (· = '.') = word.dropWhile (· = '.') :=
    List.dropWhile_append_of_pos fun c member => decide_eq_true (leading c member)
  have absent : '.' ∉ word.dropWhile (· = '.') := fun member =>
    undotted ((List.dropWhile_sublist _).subset member)
  rw [extension, dropped, if_neg (by simpa using absent)]

theorem exists_of_extension_ne_nil (dotted : extension name ≠ []) :
    ∃ stem word, name = stem ++ '.' :: word ∧ '.' ∉ word ∧ ∃ c ∈ stem, c ≠ '.' := by
  have contained : '.' ∈ name.dropWhile (· = '.') := by
    by_contra absent
    exact dotted (if_neg (by simpa using absent))
  obtain ⟨front, word, body, undotted⟩ := exists_last_separator contained
  have stops := List.head?_dropWhile_not (fun c => decide (c = '.')) name
  rw [body] at stops
  cases front with
  | nil => simp at stops
  | cons c front =>
      refine ⟨name.takeWhile (· = '.') ++ c :: front, word, ?_, undotted, c, by simp, ?_⟩
      · rw [List.append_assoc, ← body, List.takeWhile_append_dropWhile]
      · simpa using stops

theorem isToldBy_iff : language.IsToldBy name ↔ ofExtension? (extension name) = some language := by
  constructor
  · rintro ⟨stem, ending, listed, rfl, visible⟩
    obtain ⟨word, spelled, undotted⟩ := exists_eq_dot_cons listed
    rw [spelled, extension_append_cons undotted visible, ← spelled]
    exact ofExtension?_eq_some_iff.mpr ⟨ending, listed, rfl⟩
  · intro found
    have dotted : extension name ≠ [] := by
      intro none
      rw [none] at found
      revert found
      cases language <;> decide
    obtain ⟨stem, word, rfl, undotted, visible⟩ := exists_of_extension_ne_nil dotted
    rw [extension_append_cons undotted visible] at found
    obtain ⟨ending, listed, spelled⟩ := ofExtension?_eq_some_iff.mp found
    exact ⟨stem, ending, listed, by rw [spelled], visible⟩

end

instance (path part : List Char) : Decidable (IsLastPart path part) :=
  decidable_of_iff _ isLastPart_iff.symm

instance (language : Language) (name : List Char) : Decidable (language.IsToldBy name) :=
  decidable_of_iff _ isToldBy_iff.symm

theorem ofFileName?_eq {fileName : String} {part : List Char}
    (last : IsLastPart (lowercase fileName.toList) part) :
    ofFileName? fileName = ofExtension? (extension part) := by
  rw [ofFileName?, isLastPart_iff.mp last]

theorem ofFileName?_prepend (directory fileName : String) :
    ofFileName? (directory ++ "/" ++ fileName) = ofFileName? fileName := by
  have last := isLastPart_iff.mpr (Eq.refl (lastPart (lowercase fileName.toList)))
  have split : (directory ++ "/" ++ fileName).toList =
      directory.toList ++ '/' :: fileName.toList := by simp
  have prepended := last.prepend (lowercase directory.toList)
  rw [← lowercase_append_slash, ← split] at prepended
  rw [ofFileName?_eq prepended, ofFileName?_eq last]

/-- A file's name tells a language exactly if its last part, in lower case, is an extension of the
language behind something other than dots. So the extension from the last dot on decides, a name of
dots and one more word tells nothing, and a directory in front makes no difference. -/
theorem file_name_tells_language (fileName : String) :
    ∃ part, (∀ other, IsLastPart (lowercase fileName.toList) other ↔ other = part) ∧
      (∀ language, ofFileName? fileName = some language ↔ language.IsToldBy part) ∧
      (ofFileName? fileName = none ↔ ∀ language : Language, ¬ language.IsToldBy part) ∧
      (∀ stem word, part = stem ++ '.' :: word → '.' ∉ word → (∃ c ∈ stem, c ≠ '.') →
        ∀ language, ofFileName? fileName = some language ↔
          ∃ ending ∈ language.extensions, ending.toList = '.' :: word) ∧
      (∀ dots word, part = dots ++ word → (∀ c ∈ dots, c = '.') → '.' ∉ word →
        ofFileName? fileName = none) ∧
      ∀ directory, ofFileName? (directory ++ "/" ++ fileName) = ofFileName? fileName := by
  have told := @ofFileName?_eq fileName _ (isLastPart_iff.mpr rfl)
  refine ⟨lastPart (lowercase fileName.toList), fun other => isLastPart_iff, ?_, ?_, ?_, ?_, ?_⟩
  · intro language
    rw [told, isToldBy_iff]
  · simp only [told, Option.eq_none_iff_forall_ne_some, isToldBy_iff, ne_eq]
  · intro stem word whole undotted visible language
    rw [told, whole, extension_append_cons undotted visible, ofExtension?_eq_some_iff]
  · intro dots word whole leading undotted
    rw [told, whole, extension_of_leading leading undotted]
    decide
  · exact fun directory => ofFileName?_prepend directory fileName

/-- The lower-case form of the one name is longer than the name; in the other nothing but a dot
stands before the extension. -/
theorem file_name_tells_language_of_capitals :
    let named := "v1.js/ΛΟΓΟΣ İ.min.PY"
    let hidden := "v1.js/..PY"
    IsLastPart (lowercase named.toList) "λογος i\u0307.min.py".toList ∧
      ofFileName? named = some python ∧ ofFileName? ("../" ++ named) = some python ∧
      IsLastPart (lowercase hidden.toList) "..py".toList ∧ ofFileName? hidden = none := by
  intro named hidden
  have last : IsLastPart (lowercase named.toList) "λογος i\u0307.min.py".toList := by decide +kernel
  have hiddenLast : IsLastPart (lowercase hidden.toList) "..py".toList := by decide +kernel
  obtain ⟨part, only, tells, -, -, -, prepend⟩ := file_name_tells_language named
  obtain rfl := (only _).mp last
  obtain ⟨part, only, -, -, -, silent, -⟩ := file_name_tells_language hidden
  obtain rfl := (only _).mp hiddenLast
  have told : ofFileName? named = some python := (tells python).mpr (by decide +kernel)
  refine ⟨last, told, (prepend "..").trans told, hiddenLast, ?_⟩
  exact silent ['.', '.'] ['p', 'y'] rfl (by simp) (by decide)

end Language

end LineLint
