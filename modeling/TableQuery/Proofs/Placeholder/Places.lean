import TableQuery.Placeholder
import TableQuery.Proofs.Sql.Scans

/-!
# Places of placeholders

`Marked pos cs ps` says that `ps` are places of question marks in the text `cs`, which begins at
`pos`, from the first to the last. `Marked.of_scans` shows that a scan of a text finds such places,
whatever lexemes it goes through.
-/

namespace TableQuery.Placeholder
open Sql

/-- Places of question marks in a text that begins at `pos`, in ascending order. -/
inductive Marked : Nat → List Char → List Nat → Prop where
  | nil (pos : Nat) : Marked pos [] []
  | skip {pos : Nat} {cs : List Char} {ps : List Nat} (c : Char) (rest : Marked (pos + 1) cs ps) :
      Marked pos (c :: cs) ps
  | mark {pos : Nat} {cs : List Char} {ps : List Nat} (rest : Marked (pos + 1) cs ps) :
      Marked pos ('?' :: cs) (pos :: ps)

namespace Marked

theorem le_of_mem {pos p : Nat} {cs : List Char} {ps : List Nat} (h : Marked pos cs ps)
    (member : p ∈ ps) : pos ≤ p := by
  induction h with
  | nil => simp at member
  | skip c _ ih => exact Nat.le_of_succ_le (ih member)
  | mark _ ih =>
    rcases List.mem_cons.mp member with rfl | later
    · exact Nat.le_refl _
    · exact Nat.le_of_succ_le (ih later)

end Marked

/-! ### Placeholders among tokens -/

theorem ofTokens_cons (t : Token) (ts : List Token) :
    ofTokens (t :: ts) = if t.kind = .placeholder then t.start :: ofTokens ts else ofTokens ts := by
  unfold ofTokens
  by_cases h : t.kind = .placeholder <;> simp [h]

theorem ofTokens_append (ts us : List Token) : ofTokens (ts ++ us) = ofTokens ts ++ ofTokens us := by
  simp only [ofTokens, List.filterMap_append]

theorem ofTokens_close (zone : Zone) : ofTokens zone.close = [] := by
  rcases zone with _ | ⟨start, _ | _⟩ <;> rfl

theorem lead_not_placeholder {lead : Lead} {size pos more : Nat} {body : List Char} :
    lead.lexeme size pos body ≠ .ok ⟨some .placeholder, more⟩ := by
  intro h
  cases lead with
  | operator => cases h
  | lineComment => cases h
  | dashComment =>
    simp only [Lead.lexeme] at h
    split at h <;> cases h
  | blockComment closer =>
    simp only [Lead.lexeme] at h
    split at h <;> cases h
  | quoted mark =>
    simp only [Lead.lexeme] at h
    cases read : closing mark pos body <;> rw [read] at h <;> cases h
  | digits base =>
    simp only [Lead.lexeme, bind_eq_ok] at h
    obtain ⟨n, -, h⟩ := h
    split at h <;> cases h

theorem wordKind_ne_placeholder (prev : Option TokenKind) (word : List Char) :
    wordKind prev word ≠ .placeholder := by
  unfold wordKind
  repeat' split
  all_goals decide

/-- Only a question mark by itself is a placeholder. -/
theorem lexeme_placeholder {prev : Option TokenKind} {pos more : Nat} {c : Char} {rest : List Char}
    (h : lexeme prev pos c rest = .ok ⟨some .placeholder, more⟩) : c = '?' ∧ more = 0 := by
  unfold lexeme at h
  split at h
  · cases h
  split at h
  · cases read : closing Text.backquote (pos + 1) rest <;> rw [read] at h <;> cases h
  split at h
  · exact (lead_not_placeholder h).elim
  split at h
  · cases h
  split at h
  · simp only [Except.ok.injEq, Lexeme.mk.injEq, Option.some.injEq] at h
    obtain ⟨kind, rfl⟩ := h
    unfold markKind at kind
    split at kind
    · exact ⟨by simpa using ‹(c == '?') = true›, rfl⟩
    · repeat' split at kind
      all_goals cases kind
  · simp only [Except.ok.injEq, Lexeme.mk.injEq, Option.some.injEq] at h
    exact (wordKind_ne_placeholder _ _ h.1).elim

/-- A scan finds places of question marks, from the first to the last. -/
theorem Marked.of_scans {zone : Zone} {prev : Option TokenKind} {inside pos : Nat} {cs : List Char}
    {ts : List Token} (scans : Scans zone prev inside pos cs ts) : Marked pos cs (ofTokens ts) := by
  induction scans with
  | nil zone prev inside pos =>
    rw [ofTokens_close]
    exact .nil pos
  | inside c _ ih => exact .skip c ih
  | blank _ _ ih => exact .skip _ ih
  | separator _ ih =>
    rw [ofTokens_append, ofTokens_close, ofTokens_cons]
    exact .skip _ ih
  | comment _ _ ih => exact .skip _ ih
  | dropped _ _ _ ih => exact .skip _ ih
  | token lexed _ ih =>
    rw [ofTokens_cons]
    split
    · rename_i place
      dsimp only at place
      subst place
      obtain ⟨rfl, rfl⟩ := lexeme_placeholder lexed
      exact .mark ih
    · exact .skip _ ih

end TableQuery.Placeholder
