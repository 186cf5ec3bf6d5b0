import TableQuery.Proofs.Except
import TableQuery.Sql.Scan

/-!
# What a scan does

`Scans` says what a scan does at one character: it goes on in a lexeme, passes a blank, ends a
command, reads a comment, or reads a token, which it drops in the text of a command. Every scan that
gives tokens is made of these (`scans_of_scan`), so that what each of them keeps is so of the tokens
of every text.
-/

namespace TableQuery.Sql

/-- The zone behind a token of a statement, in front of `rest`. -/
def Zone.behind (prev : Option TokenKind) (kind : TokenKind) (pos more : Nat) (rest : List Char) :
    Zone :=
  if kind == .command && takesText prev (rest.drop more).head? then
    .command (pos + 1 + more) false
  else .statement

theorem Zone.behind_command {prev : Option TokenKind} {pos more : Nat} {cs : List Char}
    (opens : takesText prev none = true) (next : (cs.drop more).head? ≠ some ';') :
    Zone.behind prev .command pos more cs = .command (pos + 1 + more) false := by
  have takes : takesText prev (cs.drop more).head? = true := by
    unfold takesText at opens ⊢
    rw [(Bool.and_eq_true _ _).mp opens |>.1]
    simpa using next
  unfold Zone.behind
  rw [takes]
  rfl

theorem Zone.command_of_behind {prev : Option TokenKind} {kind : TokenKind} {pos more : Nat}
    {cs : List Char} (command : (Zone.behind prev kind pos more cs).isCommand = true) :
    kind = .command ∧ takesText prev none = true := by
  unfold Zone.behind at command
  split at command
  · rename_i takes
    rw [Bool.and_eq_true, beq_iff_eq] at takes
    obtain ⟨known, takes⟩ := takes
    unfold takesText at takes ⊢
    exact ⟨known, by rw [(Bool.and_eq_true _ _).mp takes |>.1]; rfl⟩
  · cases command

/-- A text, read from `pos` on, has these tokens. -/
inductive Scans : Zone → Option TokenKind → Nat → Nat → List Char → List Token → Prop where
  | nil (zone : Zone) (prev : Option TokenKind) (inside pos : Nat) :
      Scans zone prev inside pos [] zone.close
  | inside {zone : Zone} {prev : Option TokenKind} {n pos : Nat} {cs : List Char} {ts : List Token}
      (c : Char) (rest : Scans zone prev n (pos + 1) cs ts) : Scans zone prev (n + 1) pos (c :: cs) ts
  | blank {zone : Zone} {prev : Option TokenKind} {pos : Nat} {c : Char} {cs : List Char}
      {ts : List Token} (blank : Text.isBlank c = true) (rest : Scans zone prev 0 (pos + 1) cs ts) :
      Scans zone prev 0 pos (c :: cs) ts
  | separator {start pos : Nat} {filled : Bool} {prev : Option TokenKind} {cs : List Char}
      {ts : List Token} (rest : Scans .statement (some .separator) 0 (pos + 1) cs ts) :
      Scans (.command start filled) prev 0 pos (';' :: cs)
        ((Zone.command start filled).close ++ ⟨.separator, pos⟩ :: ts)
  | comment {zone : Zone} {prev : Option TokenKind} {pos more : Nat} {c : Char} {cs : List Char}
      {ts : List Token} (lexed : lexeme prev pos c cs = .ok ⟨none, more⟩)
      (rest : Scans zone.fill prev more (pos + 1) cs ts) : Scans zone prev 0 pos (c :: cs) ts
  | dropped {start pos more : Nat} {filled : Bool} {prev : Option TokenKind} {c : Char}
      {cs : List Char} {kind : TokenKind} {ts : List Token} (other : c ≠ ';')
      (lexed : lexeme prev pos c cs = .ok ⟨some kind, more⟩)
      (rest : Scans (.command start true) (some kind) more (pos + 1) cs ts) :
      Scans (.command start filled) prev 0 pos (c :: cs) ts
  | token {prev : Option TokenKind} {pos more : Nat} {c : Char} {cs : List Char} {kind : TokenKind}
      {ts : List Token} (lexed : lexeme prev pos c cs = .ok ⟨some kind, more⟩)
      (rest : Scans (.behind prev kind pos more cs) (some kind) more (pos + 1) cs ts) :
      Scans .statement prev 0 pos (c :: cs) (⟨kind, pos⟩ :: ts)

theorem scans_of_scan {zone : Zone} {prev : Option TokenKind} {inside pos : Nat} {cs : List Char}
    {ts : List Token} (read : scan zone prev inside pos cs = .ok ts) :
    Scans zone prev inside pos cs ts := by
  induction cs generalizing zone prev inside pos ts with
  | nil =>
    cases read
    exact .nil zone prev inside pos
  | cons c rest ih =>
    cases inside with
    | succ n =>
      rw [scan] at read
      exact .inside c (ih read)
    | zero =>
      rw [scan] at read
      split at read
      · rename_i blank
        exact .blank blank (ih read)
      split at read
      · rename_i ends
        rw [Bool.and_eq_true, beq_iff_eq] at ends
        obtain ⟨command, rfl⟩ := ends
        obtain ⟨us, later, rfl⟩ := map_eq_ok.mp read
        cases zone with
        | statement => cases command
        | command start filled => exact .separator (ih later)
      rename_i goes
      split at read
      · cases read
      · rename_i more lexed
        exact .comment lexed (ih read)
      · rename_i kind more lexed
        cases zone with
        | command start filled =>
          refine .dropped ?_ lexed (ih read)
          rintro rfl
          exact goes rfl
        | statement =>
          obtain ⟨us, later, rfl⟩ := map_eq_ok.mp read
          exact .token lexed (ih later)

end TableQuery.Sql
