import TableQuery.Proofs.Except
import TableQuery.Proofs.Sql.Word

/-!
# Quotations

A text can be put between quotation marks of three kinds. `Quotation.escaped` doubles the characters
that would end it or take the next one with them. `closing_escaped` shows that the mark behind such a
text is the one that closes it, whatever other marks, backslashes or openers of comments the text
holds, and `lexeme_quotation` that the whole is one token.
-/

namespace TableQuery.Sql
open Text (apostrophe backslash)

inductive Quotation where
  | apostrophes
  | doubleQuotes
  | backquotes
  deriving DecidableEq

namespace Quotation

def mark : Quotation → Char
  | apostrophes => Text.apostrophe
  | doubleQuotes => Text.doubleQuote
  | backquotes => Text.backquote

/-- The mark ends a text, and a backslash takes the next character with it. -/
def breaks (q : Quotation) (c : Char) : Bool := c == q.mark || (hasEscapes q.mark && c == backslash)

def escaped (q : Quotation) (s : List Char) : List Char :=
  s.flatMap fun c => if q.breaks c then [c, c] else [c]

def quote (q : Quotation) (s : List Char) : List Char := q.mark :: q.escaped s ++ [q.mark]

variable {q : Quotation}

theorem escaped_breaks {c : Char} (breaks : q.breaks c = true) (s : List Char) :
    q.escaped (c :: s) = c :: c :: q.escaped s := by
  simp [escaped, breaks]

theorem escaped_other {c : Char} (other : q.breaks c = false) (s : List Char) :
    q.escaped (c :: s) = c :: q.escaped s := by
  simp [escaped, other]

theorem escaped_cons (q : Quotation) (c : Char) (s : List Char) :
    ∃ more, q.escaped (c :: s) = c :: more := by
  cases breaks : q.breaks c with
  | true => exact ⟨_, escaped_breaks breaks s⟩
  | false => exact ⟨_, escaped_other breaks s⟩

end Quotation

section
variable {q : Quotation} {pos : Nat} {c d : Char} {rest : List Char}

/-- The closing mark of a quotation, with no other behind it. -/
theorem closing_mark (stop : rest.head? ≠ some q.mark) :
    closing q.mark pos (q.mark :: rest) = .ok 1 := by
  have plain : (hasEscapes q.mark && q.mark == backslash) = false := by cases q <;> rfl
  cases rest with
  | nil => simp [closing]
  | cons d rest =>
    have single : isDoubled q.mark q.mark d = false := by
      have other : d ≠ q.mark := fun same => stop (congrArg some same)
      simp [isDoubled, other]
    cases rest <;> simp [closing, plain, single]

/-- Two characters that are read as one. -/
theorem closing_pair
    (pair : (hasEscapes q.mark && c == backslash) = true ∨ isDoubled q.mark c d = true)
    (more : rest ≠ []) :
    closing q.mark pos (c :: d :: rest) = (closing q.mark (pos + 2) rest).map (· + 2) := by
  obtain ⟨e, rest, rfl⟩ := List.exists_cons_of_ne_nil more
  rw [closing]
  rcases pair with escape | doubled
  · rw [if_pos escape]
  · rw [if_pos doubled, ite_self]

/-- A character that neither breaks a quotation nor is doubled. -/
theorem closing_single (other : q.breaks c = false) (single : isDoubled q.mark c d = false) :
    closing q.mark pos (c :: d :: rest) = (closing q.mark (pos + 1) (d :: rest)).map (· + 1) := by
  obtain ⟨unmarked, plain⟩ := Bool.or_eq_false_iff.mp other
  cases rest <;> simp [closing, plain, single, unmarked]

theorem pair_of_breaks (breaks : q.breaks c = true) :
    (hasEscapes q.mark && c == backslash) = true ∨ isDoubled q.mark c c = true := by
  rcases (Bool.or_eq_true _ _).mp breaks with mark | escape
  · exact .inr (by simp [isDoubled, eq_of_beq mark])
  · exact .inl escape

/-- The characters of a text between quotation marks do not close it. -/
theorem closing_escaped (s : List Char) (pos : Nat) (stop : rest.head? ≠ some q.mark) :
    closing q.mark pos (q.escaped s ++ q.mark :: rest) = .ok ((q.escaped s).length + 1) := by
  -- A mark of the other kind goes with the next one, so that the last two characters count.
  match s with
  | [] => exact closing_mark stop
  | c :: s =>
    cases breaks : q.breaks c with
    | true =>
      rw [q.escaped_breaks breaks, List.cons_append, List.cons_append,
        closing_pair (pair_of_breaks breaks) (by simp), closing_escaped s (pos + 2) stop]
      rfl
    | false =>
      rw [q.escaped_other breaks, List.cons_append]
      match s with
      | [] =>
        have unmarked : (c == q.mark) = false := (Bool.or_eq_false_iff.mp breaks).1
        have single : isDoubled q.mark c q.mark = false := by
          rw [isDoubled, BEq.comm (a := q.mark), unmarked, Bool.and_false]
        show closing q.mark pos (c :: q.mark :: rest) = _
        rw [closing_single breaks single, closing_mark stop]
        rfl
      | d :: s =>
        cases doubled : isDoubled q.mark c d with
        | true =>
          obtain rfl : d = c := by simp [isDoubled] at doubled; exact doubled.2
          rw [q.escaped_other breaks, List.cons_append, closing_pair (.inr doubled) (by simp),
            closing_escaped s (pos + 2) stop]
          rfl
        | false =>
          obtain ⟨more, begins⟩ := q.escaped_cons d s
          have later := closing_escaped (d :: s) (pos + 1) stop
          rw [begins, List.cons_append] at later ⊢
          rw [closing_single breaks doubled, later]
          rfl

theorem lexeme_mark_closing (q : Quotation) (prev : Option TokenKind) (pos : Nat) (body : List Char) :
    lexeme prev pos q.mark body =
      (closing q.mark (pos + 1) body).map fun n => ⟨some .other, n⟩ := by
  have lead (mark : Char) : (closing mark (pos + 1) body).map (fun n => ⟨some .other, 0 + n⟩) =
      (closing mark (pos + 1) body).map fun n => (⟨some .other, n⟩ : Lexeme) := by
    simp only [Nat.zero_add]
  cases q with
  | apostrophes => exact lead Text.apostrophe
  | doubleQuotes => exact lead Text.doubleQuote
  | backquotes => rfl

/-- A quotation is one token. -/
theorem lexeme_quotation {prev : Option TokenKind} (s : List Char)
    (stop : rest.head? ≠ some q.mark) :
    lexeme prev pos q.mark (q.escaped s ++ q.mark :: rest) =
      .ok ⟨some .other, (q.escaped s).length + 1⟩ := by
  rw [lexeme_mark_closing, closing_escaped s (pos + 1) stop]
  rfl

end

end TableQuery.Sql
