import Mathlib.Data.List.Basic
import TableQuery.Proofs.Placeholder.Places
import TableQuery.Proofs.Sql.Word

/-!
# Sentences

A sentence is made of names, keywords, decimal numbers, operators, marks and question marks, and a
name never follows a name. `Sentence.tokens` shows that the placeholders of a sentence are all of
its question marks. Its names may be words like `start` or `replace`: what begins a command takes
text only at the start of a statement or behind a word that opens one, and there is no name there.
-/

namespace TableQuery.Sql
open Placeholder (ofTokens)

/-- The keywords of the statements that builders compile. -/
def keywords : List (List Char) :=
  ["SELECT", "FROM", "LEFT", "RIGHT", "INNER", "JOIN", "ON", "WHERE", "AND", "IN", "LIKE", "ORDER",
    "BY", "ASC", "DESC", "LIMIT", "OFFSET", "INSERT", "INTO", "SET", "DUPLICATE", "KEY", "UPDATE",
    "DELETE"].map String.toList

/-- A text of plain parts. `free` says whether a name may come first. -/
inductive Sentence : Bool → List Char → Prop where
  | nil {free : Bool} : Sentence free []
  | blank {free : Bool} {cs : List Char} (rest : Sentence free cs) : Sentence free (' ' :: cs)
  | name {w cs : List Char} (named : isName w = true) (stop : stopsAt nameStops cs = true)
      (rest : Sentence false cs) : Sentence true (w ++ cs)
  | keyword {free : Bool} {w cs : List Char} (known : w ∈ keywords)
      (stop : stopsAt [' '] cs = true) (rest : Sentence true cs) : Sentence free (w ++ cs)
  | number {free : Bool} {d : Char} {ds cs : List Char}
      (digits : ∀ e ∈ d :: ds, Text.isAsciiDigit e = true) (stop : stopsAt [' '] cs = true)
      (rest : Sentence true cs) : Sentence free (d :: ds ++ cs)
  | mark {free : Bool} {c : Char} {cs : List Char} (mark : c ∈ singleMarks)
      (rest : Sentence true cs) : Sentence free (c :: cs)
  | question {free : Bool} {cs : List Char} (stop : stopsAt [' ', ',', ')'] cs = true)
      (rest : Sentence true cs) : Sentence free ('?' :: cs)
  | assign {free : Bool} {cs : List Char} (rest : Sentence true ('?' :: cs)) :
      Sentence free ('=' :: '?' :: cs)
  | operator {free : Bool} {op cs : List Char} (operator : op ∈ operators)
      (rest : Sentence true (' ' :: cs)) : Sentence free (op ++ ' ' :: cs)

/-! ### Keywords -/

theorem isName_keyword : ∀ w ∈ keywords, isName w = true := by decide

theorem upper_keyword : ∀ w ∈ keywords,
    Text.upperChars w ∉ commandWords ∧ Text.upperChars w ∉ openingWords := by decide

theorem toUpper_keyword : ∀ w ∈ keywords,
    w.map Char.toUpper ∉ lockWords ∧ w.map Char.toUpper ≠ "TABLES".toList := by decide

theorem wordKind_keyword {w : List Char} (known : w ∈ keywords) (prev : Option TokenKind) :
    wordKind prev w = .other := by
  have ⟨command, opening⟩ := upper_keyword w known
  simp only [wordKind, List.contains_iff_mem, command, opening, if_false, ite_self]

theorem stopsAt_nameStops {cs : List Char} (stop : stopsAt [' '] cs = true) :
    stopsAt nameStops cs = true := by
  cases cs with
  | nil => rfl
  | cons c cs =>
    obtain rfl : c = ' ' := by simpa [stopsAt] using stop
    rfl

theorem dropWhile_name {w rest : List Char} (named : isName w = true) :
    (w ++ rest).dropWhile Text.isBlank = w ++ rest := by
  cases w with
  | nil => cases named
  | cons c w =>
    have visible := not_isBlank_of_isLetterOrDigit (isName_all named c List.mem_cons_self)
    rw [List.cons_append, List.dropWhile_cons_of_neg (by simp [visible])]

theorem wordOf_mark {c : Char} (mark : isMark c = true) (cs : List Char) :
    (wordOf ((c :: cs).dropWhile Text.isBlank)).map Char.toUpper ≠ "TABLES".toList := by
  have ended : endsWord c = true := by simp [endsWord, mark]
  rw [List.dropWhile_cons_of_neg (by simp [not_isBlank_of_isMark mark]), wordOf,
    List.takeWhile_cons_of_neg (by simp [ended])]
  decide

theorem operator_mark {op : List Char} (operator : op ∈ operators) :
    ∃ c more, op = c :: more ∧ isMark c = true := by
  have first : ∀ op ∈ operators, op.head?.any isMark = true := by decide
  cases op with
  | nil => exact absurd (first [] operator) (by decide)
  | cons c more => exact ⟨c, more, rfl, first _ operator⟩

theorem toUpper_digit {d : Char} (digit : Text.isAsciiDigit d = true) : d.toUpper = d := by
  have code : 48 ≤ d.toNat ∧ d.toNat ≤ 57 := by simpa [Text.isAsciiDigit] using digit
  unfold Char.toUpper
  refine dif_neg fun lower => ?_
  have low : 97 ≤ d.toNat := lower.1
  omega

namespace Sentence

theorem free {free : Bool} {cs : List Char} (h : Sentence free cs) : Sentence true cs := by
  induction h with
  | nil => exact .nil
  | blank _ ih => exact .blank ih
  | name named stop rest _ => exact .name named stop rest
  | keyword known stop rest _ => exact .keyword known stop rest
  | number digits stop rest _ => exact .number digits stop rest
  | mark mark rest _ => exact .mark mark rest
  | question stop rest _ => exact .question stop rest
  | assign rest _ => exact .assign rest
  | operator operator rest _ => exact .operator operator rest

/-- What follows a name is not the second word of a lock. -/
theorem second {cs : List Char} (h : Sentence false cs) :
    (wordOf (cs.dropWhile Text.isBlank)).map Char.toUpper ≠ "TABLES".toList := by
  -- The induction needs a variable in the place of `false`.
  generalize bound : false = free at h
  induction h with
  | nil => decide
  | blank _ ih => exact ih bound
  | name => cases bound
  | @keyword _ w cs known stop _ _ =>
    have named := isName_keyword w known
    have word := wordOf_name (isName_all named) (stopsAt_nameStops stop)
    rw [dropWhile_name named, word]
    exact (toUpper_keyword w known).2
  | @number _ d ds cs digits _ _ _ =>
    have digit := digits d List.mem_cons_self
    have plain : isLetterOrDigit d = true := by simp [isLetterOrDigit, digit]
    rw [List.cons_append, List.dropWhile_cons_of_neg (by simp [not_isBlank_of_isLetterOrDigit plain]),
      wordOf, List.takeWhile_cons_of_pos (by simp [not_endsWord_of_isLetterOrDigit plain])]
    intro same
    have capital : d.toUpper = 'T' := (List.cons.inj same).1
    rw [toUpper_digit digit] at capital
    rw [capital] at digit
    cases digit
  | mark mark _ _ => exact wordOf_mark (isMark_of_single mark).1 _
  | question _ _ _ => exact wordOf_mark (by decide) _
  | assign _ _ => exact wordOf_mark (by decide) _
  | operator operator _ _ =>
    obtain ⟨c, op, rfl, mark⟩ := operator_mark operator
    exact wordOf_mark mark _

end Sentence

/-! ### Scanning a lexeme -/

/-- A scan from `pos` succeeds and finds the placeholders at these places. -/
def Reads (prev : Option TokenKind) (pos : Nat) (cs : List Char) (ps : List Nat) : Prop :=
  ∃ ts, scan .statement prev 0 pos cs = .ok ts ∧ ofTokens ts = ps

/-- A scan from `pos` succeeds and finds all question marks. -/
def Finds (prev : Option TokenKind) (pos : Nat) (cs : List Char) : Prop :=
  ∃ ts, scan .statement prev 0 pos cs = .ok ts ∧ ofTokens ts = cs.idxsOf '?' pos

/-- A token behind which no command takes text. -/
def Settled (prev : Option TokenKind) : Prop := ∀ next, takesText prev next = false

theorem scan_inside (zone : Zone) (prev : Option TokenKind) (pos : Nat) (ws rest : List Char) :
    scan zone prev ws.length pos (ws ++ rest) = scan zone prev 0 (pos + ws.length) rest := by
  induction ws generalizing pos with
  | nil => rfl
  | cons c ws ih =>
    rw [List.cons_append, List.length_cons, scan, ih, Nat.add_assoc, Nat.add_comm 1]

/-- A token at the head that takes no text is read, and the scan goes on behind it. -/
theorem scan_token {prev : Option TokenKind} {kind : TokenKind} {pos : Nat} {c : Char}
    {ws rest : List Char} (visible : Text.isBlank c = false)
    (lexed : lexeme prev pos c (ws ++ rest) = .ok ⟨some kind, ws.length⟩)
    (calm : kind = .command → Settled prev) :
    scan .statement prev 0 pos (c :: ws ++ rest) =
      (scan .statement (some kind) 0 (pos + 1 + ws.length) rest).map (⟨kind, pos⟩ :: ·) := by
  have stays : (kind == .command && takesText prev ((ws ++ rest).drop ws.length).head?) = false := by
    by_cases command : kind = .command
    · rw [calm command, Bool.and_false]
    · simp [command]
  rw [List.cons_append, scan]
  simp only [visible, Bool.false_eq_true, if_false, Zone.isCommand, Bool.false_and, lexed, stays,
    scan_inside]

theorem reads_token {prev : Option TokenKind} {kind : TokenKind} {pos : Nat} {c : Char}
    {ws rest : List Char} {ps : List Nat} (visible : Text.isBlank c = false)
    (lexed : lexeme prev pos c (ws ++ rest) = .ok ⟨some kind, ws.length⟩)
    (calm : kind = .command → Settled prev)
    (read : Reads (some kind) (pos + 1 + ws.length) rest ps) :
    Reads prev pos (c :: ws ++ rest) (if kind = .placeholder then pos :: ps else ps) := by
  obtain ⟨ts, scanned, rfl⟩ := read
  refine ⟨⟨kind, pos⟩ :: ts, ?_, Placeholder.ofTokens_cons _ ts⟩
  rw [scan_token visible lexed calm, scanned]
  rfl

theorem reads_blank {prev : Option TokenKind} {pos : Nat} {cs : List Char} {ps : List Nat}
    (read : Reads prev (pos + 1) cs ps) : Reads prev pos (' ' :: cs) ps := by
  obtain ⟨ts, scanned, found⟩ := read
  refine ⟨ts, ?_, found⟩
  rw [scan]
  exact scanned

theorem finds_token {prev : Option TokenKind} {kind : TokenKind} {pos : Nat} {c : Char}
    {ws rest : List Char} (visible : Text.isBlank c = false)
    (lexed : lexeme prev pos c (ws ++ rest) = .ok ⟨some kind, ws.length⟩)
    (calm : kind = .command → Settled prev) (other : kind ≠ .placeholder) (plain : '?' ∉ c :: ws)
    (found : Finds (some kind) (pos + 1 + ws.length) rest) : Finds prev pos (c :: ws ++ rest) := by
  have none : (c :: ws).idxsOf '?' pos = [] := by
    rw [List.idxsOf_eq_nil_iff]
    intro d member
    exact beq_eq_false_iff_ne.mpr fun same => plain (same ▸ member)
  have places : (c :: ws ++ rest).idxsOf '?' pos = rest.idxsOf '?' (pos + 1 + ws.length) := by
    rw [List.idxsOf_append, none, List.nil_append, List.length_cons, Nat.add_right_comm, Nat.add_assoc]
  have read : Reads prev pos (c :: ws ++ rest) _ := reads_token visible lexed calm found
  rw [if_neg other, ← places] at read
  exact read

theorem finds_word {prev : Option TokenKind} {pos : Nat} {w rest : List Char}
    (named : isName w = true) (stop : stopsAt nameStops rest = true)
    (unlocked : lockLength? (w ++ rest) = none) (calm : wordKind prev w = .command → Settled prev)
    (found : ∀ pos, Finds (some (wordKind prev w)) pos rest) : Finds prev pos (w ++ rest) := by
  cases w with
  | nil => cases named
  | cons c w =>
    have plain := isName_all named
    have visible := not_isBlank_of_isLetterOrDigit (plain c List.mem_cons_self)
    refine finds_token visible (lexeme_name named stop unlocked) calm
      (Placeholder.wordKind_ne_placeholder _ _) (fun member => ?_) (found _)
    exact absurd (plain '?' member) (by decide)

theorem finds_question {prev : Option TokenKind} {pos : Nat} {rest : List Char}
    (stop : stopsAt [' ', ',', ')'] rest = true) (found : Finds (some .placeholder) (pos + 1) rest) :
    Finds prev pos ('?' :: rest) := by
  have lexed : lexeme prev pos '?' ([] ++ rest) = .ok ⟨some .placeholder, 0⟩ :=
    lexeme_question stop
  exact reads_token (by decide) lexed nofun found

namespace Sentence

theorem finds {free : Bool} {cs : List Char} (h : Sentence free cs) {prev : Option TokenKind}
    (settled : free = true → Settled prev) (pos : Nat) : Finds prev pos cs := by
  induction h generalizing prev pos with
  | nil => exact ⟨[], rfl, rfl⟩
  | @blank _ cs _ ih => exact reads_blank (ih settled (pos + 1))
  | @name w cs named stop rest ih =>
    -- The name may be a word for locks, or one behind which a command takes text. Neither matters:
    -- no second word of a lock follows a name, and names stand behind settled tokens only.
    have unlocked := lockLength?_name (isName_all named) stop fun _ => rest.second
    exact finds_word named stop unlocked (fun _ => settled rfl) (ih fun never => by cases never)
  | @keyword _ w cs known stop _ ih =>
    have named := isName_keyword w known
    -- A keyword begins no lock, and is no command word.
    have unlocked := lockLength?_name (isName_all named) (stopsAt_nameStops stop) fun locks =>
      absurd locks (toUpper_keyword w known).1
    have kind := wordKind_keyword known prev
    refine finds_word named (stopsAt_nameStops stop) unlocked ?_ ?_
    · rw [kind]
      exact fun never => by cases never
    · rw [kind]
      exact ih fun _ _ => rfl
  | @number _ d ds cs digits stop _ ih =>
    have plain : isLetterOrDigit d = true := by simp [isLetterOrDigit, digits d List.mem_cons_self]
    refine finds_token (not_isBlank_of_isLetterOrDigit plain) (lexeme_digits digits stop)
      (fun never => by cases never) (by decide) (fun member => ?_) (ih (fun _ _ => rfl) _)
    exact absurd (digits '?' member) (by decide)
  | @mark _ c cs mark _ ih =>
    obtain ⟨single, other⟩ := isMark_of_single mark
    have lexed : lexeme prev pos c ([] ++ cs) = .ok ⟨some .other, 0⟩ := lexeme_mark cs mark
    refine finds_token (not_isBlank_of_isMark single) lexed (fun never => by cases never) (by decide)
      (fun member => ?_) (ih (fun _ _ => rfl) _)
    exact other (List.mem_singleton.mp member).symm
  | question stop _ ih => exact finds_question stop (ih (fun _ _ => rfl) _)
  | @assign _ cs _ ih =>
    have lexed : lexeme prev pos '=' ([] ++ '?' :: cs) = .ok ⟨some .other, 0⟩ := lexeme_assign cs
    exact finds_token (by decide) lexed (fun never => by cases never) (by decide) (by decide)
      (ih (fun _ _ => rfl) _)
  | @operator _ op cs operator _ ih =>
    have unmarked : ∀ op ∈ operators, '?' ∉ op := by decide
    obtain ⟨c, op, rfl, mark⟩ := operator_mark operator
    exact finds_token (not_isBlank_of_isMark mark) (lexeme_operator cs operator)
      (fun never => by cases never) (by decide) (unmarked _ operator) (ih (fun _ _ => rfl) _)

theorem path {p cs : List Char} (h : IsPath p) (stop : stopsAt nameStops cs = true)
    (rest : Sentence false cs) : Sentence true (p ++ cs) := by
  induction h with
  | name named => exact .name named stop rest
  | point named _ ih =>
    rw [List.append_assoc]
    exact .name named rfl (.mark (by decide) ih)

/-- A sentence is read, and its placeholders are all of its question marks. -/
theorem tokens {cs : List Char} (h : Sentence false cs) :
    ∃ ts, Sql.tokens cs = .ok ts ∧ ofTokens ts = cs.idxsOf '?' :=
  h.finds nofun 0

end Sentence

end TableQuery.Sql
