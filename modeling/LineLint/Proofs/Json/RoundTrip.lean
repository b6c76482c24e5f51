import LineLint.Proofs.Json.Escape
import LineLint.Proofs.Json.Numeral
import Mathlib.Data.List.Induction
import Mathlib.Data.List.Nodup

namespace LineLint.Json

@[simp] theorem skipSpace_of_solid {p : CodePoint} (solid : isSpace p = false)
    (rest : List CodePoint) : skipSpace (p :: rest) = p :: rest := by
  simp [skipSpace, solid]

def plainMembers (members : List (String × Value)) : Members :=
  members.map fun entry => (.plain entry.1, entry.2)

@[simp] theorem plainMembers_cons (name : String) (value : Value)
    (members : List (String × Value)) :
    plainMembers ((name, value) :: members) = (.plain name, value) :: plainMembers members := rfl

/-- The values that are read back where integers have up to `limit` digits and `room` arrays and
objects may stand inside each other. -/
inductive Readable (limit : Option Nat) : Nat → Value → Prop
  | null {room : Nat} : Readable limit room .null
  | bool {room : Nat} (value : Bool) : Readable limit room (.bool value)
  | integer {room : Nat} {n : Int} (short : IsShort limit n) : Readable limit room (.integer n)
  | text {room : Nat} (s : String) : Readable limit room (.text s)
  | array {room : Nat} {items : List Value} (each : ∀ item ∈ items, Readable limit room item) :
      Readable limit (room + 1) (.array items)
  | object {room : Nat} {members : List (String × Value)}
      (distinct : (members.map Prod.fst).Nodup)
      (each : ∀ entry ∈ members, Readable limit room entry.2) :
      Readable limit (room + 1) (.object (plainMembers members))

def written (value : Value) : List CodePoint := codePoints (renderValue value)

structure ReadsBack (limit : Option Nat) (room : Nat) (value : Value) : Prop where
  head : ∃ c more, renderValue value = c :: more ∧ isSpace (.char c) = false ∧ c ≠ ']'
  read : ∀ fuel rest, 2 * (written value).length ≤ fuel + 1 → Stops rest →
    readValue limit fuel room (written value ++ rest) = .ok (value, rest)

variable {limit : Option Nat}

theorem ReadsBack.skipSpace_eq {room : Nat} {value : Value} (back : ReadsBack limit room value)
    (rest : List CodePoint) : skipSpace (written value ++ rest) = written value ++ rest := by
  obtain ⟨c, more, rendered, solid, -⟩ := back.head
  rw [written, rendered]
  exact skipSpace_of_solid solid _

theorem readsBack_scalar {room : Nat} {value : Value} {c : Char} {more : List Char}
    (rendered : renderValue value = c :: more) (solid : isSpace (.char c) = false)
    (plain : c ∉ ['"', '[', '{', ']'])
    (read : ∀ rest, Stops rest →
      readScalar limit (written value ++ rest) = .ok (value, rest)) :
    ReadsBack limit room value where
  head := ⟨c, more, rendered, solid, by rintro rfl; simp at plain⟩
  read := fun fuel rest enough stops => by
    have found := read rest stops
    rw [written, rendered, codePoints_cons] at found enough ⊢
    simp only [List.mem_cons, not_or] at plain
    cases fuel with
    | zero =>
        rw [List.length_cons] at enough
        omega
    | succ fuel =>
        rw [List.cons_append, readValue]
        · exact found
        all_goals simp_all

theorem opens_of_isDigit {c : Char} (digit : isDigit (.char c) = true) :
    isSpace (.char c) = false ∧ c ∉ ['"', '[', '{', ']'] := by
  have others : ∀ d ∈ [' ', '\t', '\n', '\r', '"', '[', '{', ']'],
      isDigit (.char d) = false := by
    simp [isDigit, CodePoint.toNat]
  have apart : ∀ d ∈ [' ', '\t', '\n', '\r', '"', '[', '{', ']'], c ≠ d := by
    rintro d listed rfl
    rw [others c listed] at digit
    cases digit
  simpa [isSpace, and_assoc] using apart

theorem readsBack_integer {room : Nat} {n : Int} (short : IsShort limit n) :
    ReadsBack limit room (.integer n) := by
  have read : ∀ rest, Stops rest →
      readScalar limit (written (.integer n) ++ rest) = .ok (.integer n, rest) :=
    fun rest stops => readScalar_integer stops short
  cases n with
  | ofNat n =>
      obtain ⟨c, digits, spelled⟩ := List.exists_cons_of_ne_nil (Nat.toDigits_ne_nil (n := n))
      have digit : isDigit (.char c) = true :=
        isDigit_of_mem_toDigits (spelled ▸ List.mem_cons_self)
      obtain ⟨solid, plain⟩ := opens_of_isDigit digit
      exact readsBack_scalar ((toList_toString_ofNat n).trans spelled) solid plain read
  | negSucc n => exact readsBack_scalar (toList_toString_negSucc n) rfl (by decide) read

theorem renderText_plain (s : String) :
    renderText s = '"' :: (s.toList.flatMap renderChar ++ ['"']) := by
  have points : (codePoints s.toList).flatMap renderPoint = s.toList.flatMap renderChar :=
    List.flatMap_map ..
  rw [renderText, Text.points, points, List.cons_append]

theorem readsBack_text {room : Nat} (s : String) : ReadsBack limit room (.text s) where
  head := ⟨'"', _, rfl, rfl, by decide⟩
  read := fun fuel rest enough stops => by
    cases fuel with
    | zero =>
        rw [written, renderValue, renderText_plain, codePoints_cons, List.length_cons] at enough
        omega
    | succ fuel =>
        have read := readText_renderChars s.toList rest
        rw [String.ofList_toList] at read
        simp only [written, renderValue, renderText_plain, codePoints_cons, codePoints_append,
          List.cons_append, List.append_assoc, codePoints_nil, List.nil_append, readValue, read,
          bind, Except.bind]
        rfl

theorem readsBack_null {room : Nat} : ReadsBack limit room .null :=
  readsBack_scalar rfl rfl (by decide) fun _ _ => rfl

theorem readsBack_bool {room : Nat} (value : Bool) : ReadsBack limit room (.bool value) := by
  cases value with
  | true => exact readsBack_scalar rfl rfl (by decide) fun _ _ => rfl
  | false => exact readsBack_scalar rfl rfl (by decide) fun _ _ => rfl

theorem renderItems_cons_cons (first second : Value) (others : List Value) :
    renderItems (first :: second :: others) =
      renderValue first ++ ',' :: ' ' :: renderItems (second :: others) := by
  change renderValue first ++ ", ".toList ++ renderItems (second :: others) = _
  rw [List.append_assoc]
  rfl

theorem renderMembers_cons_cons (name : Text) (value : Value) (second : Text × Value)
    (others : List (Text × Value)) :
    renderMembers ((name, value) :: second :: others) =
      renderText name ++ ": ".toList ++ renderValue value ++
        ',' :: ' ' :: renderMembers (second :: others) := by
  change renderText name ++ ": ".toList ++ renderValue value ++ ", ".toList ++
    renderMembers (second :: others) = _
  rw [List.append_assoc]
  rfl

theorem head_renderItems {room : Nat} {items : List Value} (some : items ≠ [])
    (each : ∀ item ∈ items, ReadsBack limit room item) :
    ∃ c more, renderItems items = c :: more ∧ isSpace (.char c) = false ∧ c ≠ ']' := by
  obtain ⟨first, others, rfl⟩ := List.exists_cons_of_ne_nil some
  obtain ⟨c, more, rendered, opens⟩ := (each first List.mem_cons_self).head
  cases others with
  | nil => exact ⟨c, more, rendered, opens⟩
  | cons second others =>
      rw [renderItems_cons_cons, rendered]
      exact ⟨c, _, rfl, opens⟩

theorem head_renderMembers {members : List (Text × Value)} (some : members ≠ []) :
    ∃ more, renderMembers members = '"' :: more := by
  obtain ⟨⟨name, value⟩, others, rfl⟩ := List.exists_cons_of_ne_nil some
  cases others with
  | nil => exact ⟨_, rfl⟩
  | cons => exact ⟨_, rfl⟩

def writtenName (name : String) : List CodePoint := codePoints (renderText name ++ ": ".toList)

section

variable {room fuel : Nat} {value : Value} {rest : List CodePoint}
  (back : ReadsBack limit room value) (enough : 2 * (written value).length ≤ fuel + 1)

include back enough

theorem readItems_last :
    readItems limit (fuel + 1) room (written value ++ .char ']' :: rest) = .ok ([value], rest) := by
  rw [readItems, back.read fuel _ enough (stops_cons (by decide) rest)]
  rfl

theorem readItems_more {text : List CodePoint} {values : List Value}
    (tight : skipSpace text = text) (later : readItems limit fuel room text = .ok (values, rest)) :
    readItems limit (fuel + 1) room (written value ++ .char ',' :: .char ' ' :: text) =
      .ok (value :: values, rest) := by
  rw [readItems, back.read fuel _ enough (stops_cons (by decide) _)]
  change (readItems limit fuel room (skipSpace text) >>= _) = _
  rw [tight, later]
  rfl

theorem readMembers_entry (name : String) (stops : Stops rest) :
    readMembers limit (fuel + 1) room (writtenName name ++ written value ++ rest) =
      match skipSpace rest with
      | .char '}' :: rest => .ok ([(.plain name, value)], rest)
      | .char ',' :: rest => do
          let (entries, rest) ← readMembers limit fuel room (skipSpace rest)
          return ((.plain name, value) :: entries, rest)
      | rest => .error (.problem .expectedComma rest) := by
  have named := readText_renderChars name.toList
    (.char ':' :: .char ' ' :: (written value ++ rest))
  have tight : skipSpace (.char ' ' :: (written value ++ rest)) = written value ++ rest :=
    back.skipSpace_eq rest
  rw [String.ofList_toList] at named
  have opened : writtenName name ++ written value ++ rest =
      .char '"' :: (codePoints (name.toList.flatMap renderChar) ++
        .char '"' :: .char ':' :: .char ' ' :: (written value ++ rest)) := by
    simp [writtenName, renderText_plain]
  rw [opened, readMembers, named]
  change (readValue limit fuel room (skipSpace _) >>= _) = _
  rw [tight, back.read fuel _ enough stops]
  rfl

theorem readMembers_last (name : String) :
    readMembers limit (fuel + 1) room (writtenName name ++ written value ++ .char '}' :: rest) =
      .ok ([(.plain name, value)], rest) := by
  rw [readMembers_entry back enough name (stops_cons (by decide) rest)]
  rfl

theorem readMembers_more (name : String) {text : List CodePoint} {entries : List (Text × Value)}
    (tight : skipSpace text = text)
    (later : readMembers limit fuel room text = .ok (entries, rest)) :
    readMembers limit (fuel + 1) room
      (writtenName name ++ written value ++ .char ',' :: .char ' ' :: text) =
        .ok ((.plain name, value) :: entries, rest) := by
  rw [readMembers_entry back enough name (stops_cons (by decide) _)]
  change (readMembers limit fuel room (skipSpace text) >>= _) = _
  rw [tight, later]
  rfl

end

-- Every item costs the list one of its fuel and has at least one character, so that twice the
-- length leaves each item enough for itself.
theorem readItems_renderItems {room fuel : Nat} {rest : List CodePoint} {items : List Value}
    (some : items ≠ []) (each : ∀ item ∈ items, ReadsBack limit room item)
    (enough : 2 * (renderItems items).length ≤ fuel) :
    readItems limit fuel room (codePoints (renderItems items) ++ .char ']' :: rest) =
      .ok (items, rest) := by
  induction items generalizing fuel with
  | nil => exact absurd rfl some
  | cons first others induction =>
      have back := each first List.mem_cons_self
      have length : (written first).length = (renderValue first).length := List.length_map ..
      obtain ⟨c, more, rendered, -⟩ := head_renderItems some each
      cases fuel with
      | zero => simp [rendered] at enough
      | succ fuel =>
          cases others with
          | nil =>
              rw [renderItems] at enough ⊢
              exact readItems_last back (by omega)
          | cons second others =>
              have listed : ∀ item ∈ second :: others, ReadsBack limit room item :=
                fun item member => each item (.tail _ member)
              obtain ⟨c, more, opens, solid, -⟩ := head_renderItems (List.cons_ne_nil _ _) listed
              rw [renderItems_cons_cons] at enough ⊢
              rw [List.length_append, List.length_cons, List.length_cons] at enough
              rw [codePoints_append, List.append_assoc, codePoints_cons, codePoints_cons]
              apply readItems_more back (by omega)
              · rw [opens]
                exact skipSpace_of_solid solid _
              · exact induction (List.cons_ne_nil _ _) listed (by omega)

theorem readMembers_renderMembers {room fuel : Nat} {rest : List CodePoint}
    {members : List (String × Value)} (some : members ≠ [])
    (each : ∀ entry ∈ members, ReadsBack limit room entry.2)
    (enough : 2 * (renderMembers (plainMembers members)).length ≤ fuel) :
    readMembers limit fuel room
      (codePoints (renderMembers (plainMembers members)) ++ .char '}' :: rest) =
        .ok (plainMembers members, rest) := by
  induction members generalizing fuel with
  | nil => exact absurd rfl some
  | cons first others induction =>
      obtain ⟨name, value⟩ := first
      have back : ReadsBack limit room value := each (name, value) List.mem_cons_self
      have length : (written value).length = (renderValue value).length := List.length_map ..
      obtain ⟨more, opens⟩ :=
        head_renderMembers (List.cons_ne_nil (Text.plain name, value) (plainMembers others))
      rw [plainMembers_cons] at enough ⊢
      cases fuel with
      | zero => simp [opens] at enough
      | succ fuel =>
          cases others with
          | nil =>
              change 2 * (renderText name ++ ": ".toList ++ renderValue value).length ≤ _ at enough
              rw [List.length_append, List.length_append] at enough
              have last : readMembers limit (fuel + 1) room
                  (writtenName name ++ written value ++ .char '}' :: rest) =
                    .ok ([(.plain name, value)], rest) := readMembers_last back (by omega) name
              rwa [writtenName, written, ← codePoints_append] at last
          | cons second others =>
              obtain ⟨second, held⟩ := second
              obtain ⟨more, opens⟩ := head_renderMembers
                (List.cons_ne_nil (Text.plain second, held) (plainMembers others))
              rw [plainMembers_cons] at induction ⊢
              rw [plainMembers_cons, renderMembers_cons_cons] at enough
              rw [renderMembers_cons_cons]
              simp only [List.length_append, List.length_cons] at enough
              have later : readMembers limit fuel room (codePoints (renderMembers
                  ((Text.plain second, held) :: plainMembers others)) ++ .char '}' :: rest) =
                    .ok ((.plain second, held) :: plainMembers others, rest) :=
                induction (List.cons_ne_nil _ _) (fun entry member => each entry (.tail _ member))
                  (by omega)
              have tight : skipSpace (codePoints (renderMembers
                  ((Text.plain second, held) :: plainMembers others)) ++ .char '}' :: rest) =
                codePoints (renderMembers
                  ((Text.plain second, held) :: plainMembers others)) ++ .char '}' :: rest := by
                rw [opens]
                rfl
              have more := readMembers_more back (by omega) name tight later
              simpa only [writtenName, written, codePoints_append, codePoints_cons,
                List.append_assoc, List.cons_append] using more

theorem put_of_not_mem {name : Text} {value : Value} {members : Members}
    (absent : name ∉ members.map Prod.fst) :
    Members.put name value members = members ++ [(name, value)] := by
  induction members with
  | nil => rfl
  | cons entry rest induction =>
      rw [List.map_cons, List.mem_cons, not_or] at absent
      rw [Members.put, if_neg (Ne.symm absent.1), induction absent.2]
      rfl

theorem ofList_of_nodup {entries : List (Text × Value)}
    (distinct : (entries.map Prod.fst).Nodup) : Members.ofList entries = entries := by
  induction entries using List.reverseRecOn with
  | nil => rfl
  | append_singleton entries last induction =>
      rw [List.map_append, List.nodup_append] at distinct
      have absent : last.1 ∉ entries.map Prod.fst :=
        fun member => distinct.2.2 _ member _ List.mem_cons_self rfl
      rw [Members.ofList, List.foldl_append, ← Members.ofList, induction distinct.1]
      exact put_of_not_mem absent

theorem nodup_plainMembers {members : List (String × Value)}
    (distinct : (members.map Prod.fst).Nodup) : ((plainMembers members).map Prod.fst).Nodup := by
  have names : (plainMembers members).map Prod.fst = (members.map Prod.fst).map Text.plain := by
    simp [plainMembers]
  rw [names]
  exact distinct.map fun _ _ same => Text.plain.inj same

theorem readsBack_array {room : Nat} {items : List Value}
    (each : ∀ item ∈ items, ReadsBack limit room item) :
    ReadsBack limit (room + 1) (.array items) where
  head := ⟨'[', _, rfl, rfl, by decide⟩
  read := fun fuel rest enough stops => by
    have opened : written (.array items) =
        .char '[' :: (codePoints (renderItems items) ++ [.char ']']) := by
      simp [written, renderValue]
    have length : (codePoints (renderItems items)).length = (renderItems items).length :=
      List.length_map ..
    rw [opened, List.length_cons, List.length_append] at enough
    cases fuel with
    | zero => omega
    | succ fuel =>
        rw [opened, List.cons_append, List.append_assoc]
        by_cases some : items = []
        · rw [some]
          rfl
        · have read : readItems limit fuel room
              (codePoints (renderItems items) ++ .char ']' :: rest) = .ok (items, rest) :=
            readItems_renderItems some each (by omega)
          obtain ⟨c, more, opens, solid, other⟩ := head_renderItems some each
          rw [opens] at read ⊢
          rw [codePoints_cons, List.cons_append] at read ⊢
          rw [readValue, skipSpace_of_solid solid]
          split
          next closed =>
            exact absurd (CodePoint.char.inj (List.cons.inj closed).1) other
          next =>
            rw [List.singleton_append, read]
            rfl

theorem readsBack_object {room : Nat} {members : List (String × Value)}
    (distinct : (members.map Prod.fst).Nodup)
    (each : ∀ entry ∈ members, ReadsBack limit room entry.2) :
    ReadsBack limit (room + 1) (.object (plainMembers members)) where
  head := ⟨'{', _, rfl, rfl, by decide⟩
  read := fun fuel rest enough stops => by
    have opened : written (.object (plainMembers members)) =
        .char '{' :: (codePoints (renderMembers (plainMembers members)) ++ [.char '}']) := by
      simp [written, renderValue]
    have length : (codePoints (renderMembers (plainMembers members))).length =
        (renderMembers (plainMembers members)).length := List.length_map ..
    rw [opened, List.length_cons, List.length_append] at enough
    cases fuel with
    | zero => omega
    | succ fuel =>
        rw [opened, List.cons_append, List.append_assoc]
        by_cases some : members = []
        · rw [some]
          rfl
        · have read : readMembers limit fuel room
              (codePoints (renderMembers (plainMembers members)) ++ .char '}' :: rest) =
              .ok (plainMembers members, rest) := readMembers_renderMembers some each (by omega)
          have filled : plainMembers members ≠ [] := by simpa [plainMembers] using some
          obtain ⟨more, opens⟩ := head_renderMembers filled
          rw [opens] at read ⊢
          rw [readValue]
          change (readMembers limit fuel room
            (.char '"' :: codePoints more ++ .char '}' :: rest) >>= _) = _
          rw [← codePoints_cons, read]
          change Except.ok (Value.object (Members.ofList (plainMembers members)), rest) = _
          rw [ofList_of_nodup (nodup_plainMembers distinct)]

theorem Readable.readsBack {room : Nat} {value : Value} (readable : Readable limit room value) :
    ReadsBack limit room value := by
  induction readable with
  | null => exact readsBack_null
  | bool value => exact readsBack_bool value
  | integer short => exact readsBack_integer short
  | text s => exact readsBack_text s
  | array _ induction => exact readsBack_array induction
  | object distinct _ induction => exact readsBack_object distinct induction

theorem stops_of_blank {rest : List CodePoint} (blank : skipSpace rest = []) : Stops rest := by
  cases rest with
  | nil => exact stops_nil
  | cons p rest =>
      have space : isSpace p = true := by
        by_contra solid
        rw [skipSpace_of_solid (Bool.eq_false_iff.mpr solid)] at blank
        cases blank
      simp only [isSpace, Bool.or_eq_true, decide_eq_true_eq] at space
      rcases space with ((rfl | rfl) | rfl) | rfl <;> exact stops_cons (by decide) rest

/-- What a value is written as is read as that value, with blanks after it or without. -/
theorem parse_written {limits : Limits} {value : Value}
    (readable : Readable limits.digits limits.depth value) {rest : List CodePoint}
    (blank : skipSpace rest = []) : parse limits (written value ++ rest) = .ok value := by
  have back := readable.readsBack
  have enough : 2 * (written value).length ≤ 2 * (written value ++ rest).length + 2 + 1 := by
    rw [List.length_append]
    omega
  have whole : readWhole limits (written value ++ rest) = .ok value := by
    have read := back.read _ rest enough (stops_of_blank blank)
    simp only [readWhole, back.skipSpace_eq rest, read, bind, Except.bind, blank]
    rfl
  rw [parse, whole]

end LineLint.Json
