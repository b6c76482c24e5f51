import LineLint.Proofs.Check.FunctionLength
import LineLint.Proofs.Check.MethodHead

namespace LineLint

namespace Java

def methodLines (header : Line) (body : List Line) (closing : Line) : List Line :=
  header :: (body ++ [closing])

section

variable {header closing : Line} {body : List Line}

theorem length_methodLines : (methodLines header body closing).length = body.length + 1 + 1 := by
  simp [methodLines]

theorem lineAt_methodLines_header :
    lineAt (methodLines header body closing) (1 : Nat) = header := rfl

theorem lineAt_methodLines_body {position : Nat} (inside : position < body.length) :
    lineAt (methodLines header body closing) (position + 1 + 1 : Nat) = body[position] := by
  rw [lineAt_succ, methodLines, List.getD_cons_succ, List.getD_eq_getElem?_getD,
    List.getElem?_append_left inside, List.getElem?_eq_getElem inside]
  rfl

theorem lineAt_methodLines_mem {line : Nat} (after : 1 < line) (upTo : line ≤ body.length + 1) :
    lineAt (methodLines header body closing) line ∈ body := by
  obtain ⟨position, rfl⟩ : ∃ position, line = position + 1 + 1 := ⟨line - 2, by omega⟩
  have inside : position < body.length := by omega
  rw [lineAt_methodLines_body inside]
  exact List.getElem_mem inside

theorem lineAt_methodLines_closing :
    lineAt (methodLines header body closing) (body.length + 1 + 1 : Nat) = closing := by
  rw [lineAt_succ, methodLines, List.getD_cons_succ, List.getD_eq_getElem?_getD,
    List.getElem?_concat_length]
  rfl

end

/-- The header's one brace opens the method, the closing line closes it, and the lines of the body
have no braces. -/
structure PlainMethod (header : Line) (body : List Line) (closing : Line) : Prop where
  shows : ShowsMethod header
  opening : (strip header).getLast? = some '{'
  single : (strip header).count '{' + (strip header).count '}' = 1
  plain : ∀ line ∈ body, '{' ∉ line ∧ '}' ∉ line
  closes : strip closing = ['}']

instance (header : Line) (body : List Line) (closing : Line) :
    Decidable (PlainMethod header body closing) :=
  decidable_of_iff
    (ShowsMethod header ∧ (strip header).getLast? = some '{' ∧
      (strip header).count '{' + (strip header).count '}' = 1 ∧
      (∀ line ∈ body, '{' ∉ line ∧ '}' ∉ line) ∧ strip closing = ['}'])
    ⟨fun ⟨shows, opening, single, plain, closes⟩ => ⟨shows, opening, single, plain, closes⟩,
      fun method => ⟨method.shows, method.opening, method.single, method.plain, method.closes⟩⟩

namespace PlainMethod

open BraceSpan

variable {header closing : Line} {body : List Line} (method : PlainMethod header body closing)

include method

theorem count_header : header.count '{' = 1 ∧ header.count '}' = 0 := by
  have opening : 0 < (strip header).count '{' :=
    List.count_pos_iff.mpr (List.mem_of_getLast? method.opening)
  have single := method.single
  rw [count_strip (by decide)] at opening
  rw [count_strip (by decide), count_strip (by decide)] at single
  omega

theorem count_closing : closing.count '{' = 0 ∧ closing.count '}' = 1 := by
  rw [← count_strip (by decide) closing, ← count_strip (by decide) closing, method.closes]
  decide

theorem not_opens_closing : methodSyntax.opens closing = false := by
  rw [opens_eq, method.closes]
  decide

theorem plain_of_inside {line : Nat} (after : 1 < line) (upTo : line ≤ body.length + 1) :
    balance (lineAt (methodLines header body closing) line) = 0 ∧
      '}' ∉ lineAt (methodLines header body closing) line := by
  obtain ⟨opening, closing⟩ := method.plain _ (lineAt_methodLines_mem after upTo)
  refine ⟨?_, closing⟩
  rw [balance, List.count_eq_zero_of_not_mem opening, List.count_eq_zero_of_not_mem closing]
  rfl

theorem unclosed {line : Nat} (first : 1 ≤ line) (upTo : line ≤ body.length + 1) :
    '}' ∉ lineAt (methodLines header body closing) line := by
  rcases Nat.lt_or_eq_of_le first with after | rfl
  · exact (method.plain_of_inside after upTo).2
  · exact List.count_eq_zero.mp method.count_header.2

theorem balanceBetween_closing {start : Nat} (first : 1 ≤ start) (upTo : start ≤ body.length + 1) :
    balanceBetween (methodLines header body closing) start (body.length + 1 + 1) =
      balance (lineAt (methodLines header body closing) start) - 1 := by
  have final : balance closing = -1 := by
    rw [balance, method.count_closing.1, method.count_closing.2]
    rfl
  rw [balanceBetween_succ _ (by omega), lineAt_methodLines_closing, final,
    balanceBetween_of_plain upTo fun line after inside =>
      (method.plain_of_inside (Nat.lt_of_le_of_lt first after) inside).1]
  rfl

theorem endsAt (plain : ∀ line ∈ body, ¬ ShowsMethod line) :
    EndsAt methodSyntax (methodLines header body closing) (body.length + 1 + 1) 1 where
  first := Nat.le_refl 1
  reached := Nat.le_add_left 1 _
  opens := opens_iff.mpr method.shows
  latest := fun later after upTo => by
    rcases Nat.lt_or_eq_of_le upTo with before | rfl
    · rw [← Bool.not_eq_true]
      exact mt opens_iff.mp (plain _ (lineAt_methodLines_mem after (Nat.le_of_lt_succ before)))
    · rw [lineAt_methodLines_closing]
      exact method.not_opens_closing
  closes := by
    constructor
    · rw [lineAt_methodLines_closing, ← List.count_pos_iff, method.count_closing.2]
      exact Nat.one_pos
    · rw [method.balanceBetween_closing (Nat.le_refl 1) (by omega), lineAt_methodLines_header,
        balance, method.count_header.1, method.count_header.2]
      rfl
  unclosed := fun earlier from_ before closes =>
    method.unclosed from_ (Nat.le_of_lt_succ before) closes.1

/-- A line of the body that begins as a method does resets the balance, which the last line then
takes below zero. -/
theorem not_endsAt {line : Line} (member : line ∈ body) (shows : ShowsMethod line) (start : Nat) :
    ¬ EndsAt methodSyntax (methodLines header body closing) (body.length + 1 + 1) start := by
  intro ends
  obtain ⟨position, inside, rfl⟩ := List.getElem_of_mem member
  have after : position + 1 + 1 ≤ start := by
    rw [← Nat.not_lt]
    intro before
    have quiet := ends.latest _ before (by omega)
    rw [lineAt_methodLines_body inside, ← Bool.not_eq_true] at quiet
    exact quiet (opens_iff.mpr shows)
  rcases Nat.lt_or_eq_of_le ends.reached with before | rfl
  · have upTo := Nat.le_of_lt_succ before
    have balanced := ends.closes.2
    rw [method.balanceBetween_closing ends.first upTo,
      (method.plain_of_inside (by omega) upTo).1] at balanced
    cases balanced
  · have opens := ends.opens
    rw [lineAt_methodLines_closing, method.not_opens_closing] at opens
    cases opens

end PlainMethod

/-- A plain method with 30 lines or more in its body is reported, once and under its header, if no
line of the body begins as a method does; a statement that does, such as the return of a call, hides
it altogether. -/
theorem long_method_reports {text : List Char} {header closing : Line} {body : List Line}
    (method : PlainMethod header body closing) (long : 30 ≤ body.length)
    (made : lines text = methodLines header body closing) :
    ∃ name, NamesMethod header name ∧
      (check text).filter (fun finding => isLongMethod finding.message) =
        if ∃ line ∈ body, ShowsMethod line then []
        else [overlongMethod (String.ofList name) (body.length + 1) 1 header] := by
  have spans : BraceSpan.spans methodSyntax (lines text) =
      (BraceSpan.Tracker.spanAt methodSyntax (lines text) (body.length + 1 + 1)).toList := by
    rw [made]
    exact BraceSpan.spans_eq_of_last_closes length_methodLines fun line => method.unclosed
  have ended := @BraceSpan.Tracker.spanAt_eq_some_iff methodSyntax (lines text)
    (body.length + 1 + 1) (by omega)
  obtain ⟨name, names, -⟩ := exists_captureIn_name method.shows
  refine ⟨name, names, ?_⟩
  rw [filter_longMethod, spans]
  split
  next hidden =>
    obtain ⟨line, member, shows⟩ := hidden
    have none :
        BraceSpan.Tracker.spanAt methodSyntax (lines text) (body.length + 1 + 1) = none := by
      rw [Option.eq_none_iff_forall_ne_some]
      intro span found
      obtain ⟨start, ends, -⟩ := ended.mp found
      exact method.not_endsAt member shows start (made ▸ ends)
    rw [none]
    rfl
  next plain =>
    have ends := method.endsAt fun line member shows => plain ⟨line, member, shows⟩
    have here : lineAt (lines text) (1 : Nat) = header := by
      rw [made]
      exact lineAt_methodLines_header
    have long : methodLimit < body.length + 1 := Nat.lt_succ_of_le long
    have between : BraceSpan.between methodSyntax (lines text) 1 (body.length + 1 + 1) =
        ⟨1, header, String.ofList name, body.length + 1⟩ := by
      rw [BraceSpan.between, here, nameIn_eq method.shows names]
      rfl
    rw [ended.mpr ⟨1, made ▸ ends, rfl⟩, between]
    simp [long, ← here]

theorem long_method_reports_of_increments :
    let header := "public static void f(int x) \x7b".toList
    let body := List.replicate 30 "    x++;".toList
    let text := header ++ (body.flatMap ('\n' :: ·)) ++ "\n\x7d".toList
    PlainMethod header body ['}'] ∧
      (check text).filter (fun finding => isLongMethod finding.message) =
        [overlongMethod "f" 31 1 header] := by
  intro header body text
  have method : PlainMethod header body ['}'] := by decide +kernel
  have plain : ¬ ∃ line ∈ body, ShowsMethod line := by decide +kernel
  have called : NamesMethod header "f".toList :=
    ⟨"public static void ".toList, [], "int x) \x7b".toList, by decide +kernel, by decide,
      by decide, by decide, CharSet.stopsAt_cons.mpr (by decide)⟩
  obtain ⟨name, names, reports⟩ :=
    @long_method_reports text header ['}'] body method (by decide) (by decide +kernel)
  obtain rfl := names.unique called
  rw [if_neg plain] at reports
  exact ⟨method, reports⟩

/-- The return of a call reads as a type, a name and a bracket, and the method around it is lost. -/
theorem long_method_unreported_at_returned_call :
    let header := "void f() \x7b".toList
    let body := List.replicate 29 "    x++;".toList ++ ["    return g(x);".toList]
    let text := header ++ (body.flatMap ('\n' :: ·)) ++ "\n\x7d".toList
    PlainMethod header body ['}'] ∧ 30 ≤ body.length ∧
      (∀ line ∈ body, (strip line).getLast? = some ';') ∧
      lines text = methodLines header body ['}'] ∧
      (check text).filter (fun finding => isLongMethod finding.message) = [] := by
  decide +kernel

end Java

end LineLint
