import Mathlib
import TableQuery.Proofs.Except
import TableQuery.Proofs.Sql.Word

/-!
# Texts without quotation marks and comments

No quoted text or name and no comment begins in an unquoted text. `lexeme_unquoted` shows that every
lexeme of such a text is a token that holds no separator behind its first character and, unless it
begins with one, no question mark. So every such text has tokens (`scan_unquoted`).
-/

namespace TableQuery.Sql

/-- The characters at which a quoted text, a quoted name or a comment may begin. -/
def quoting : List Char := ['\x27', '\x22', '\x60', '#', '-', '/', '\x7b']

def Unquoted (cs : List Char) : Prop := ∀ c ∈ cs, c ∉ quoting

instance (cs : List Char) : Decidable (Unquoted cs) :=
  List.decidableBAll (· ∉ quoting) cs

theorem Unquoted.tail {c : Char} {cs : List Char} (unquoted : Unquoted (c :: cs)) : Unquoted cs :=
  fun d member => unquoted d (List.mem_cons_of_mem c member)

/-! ### Quiet texts -/

/-- A text with neither a separator nor a question mark. -/
def Quiet (cs : List Char) : Prop := ∀ c ∈ cs, c ≠ ';' ∧ c ≠ '?'

theorem Quiet.nil : Quiet [] := fun _ member => (List.not_mem_nil member).elim

theorem Quiet.cons {c : Char} {cs : List Char} (head : c ≠ ';' ∧ c ≠ '?') (tail : Quiet cs) :
    Quiet (c :: cs) :=
  List.forall_mem_cons.mpr ⟨head, tail⟩

theorem Quiet.append {cs ds : List Char} (hc : Quiet cs) (hd : Quiet ds) : Quiet (cs ++ ds) :=
  List.forall_mem_append.mpr ⟨hc, hd⟩

theorem Quiet.tail {cs : List Char} (quiet : Quiet cs) : Quiet cs.tail :=
  fun c member => quiet c (List.mem_of_mem_tail member)

theorem Quiet.takeWhile {p : Char → Bool} (apart : p ';' = false ∧ p '?' = false)
    (cs : List Char) : Quiet (cs.takeWhile p) := by
  intro c member
  have taken : p c = true := List.mem_takeWhile_imp member
  refine ⟨?_, ?_⟩
  · rintro rfl
    rw [apart.1] at taken
    cases taken
  · rintro rfl
    rw [apart.2] at taken
    cases taken

theorem quiet_wordOf (cs : List Char) : Quiet (wordOf cs) := .takeWhile (by decide) cs

theorem quiet_of_isAsciiDigit {c : Char} (digit : Text.isAsciiDigit c = true) :
    c ≠ ';' ∧ c ≠ '?' := by
  refine ⟨?_, ?_⟩ <;>
    · rintro rfl
      cases digit

theorem quiet_numberLength (afterAt point exponent signs : Bool) (cs : List Char) :
    Quiet (cs.take (numberLength afterAt point exponent signs cs)) := by
  induction cs generalizing afterAt point exponent signs with
  | nil => exact .nil
  | cons c rest ih =>
    unfold numberLength
    split
    · rename_i digit
      exact .cons (quiet_of_isAsciiDigit digit) (ih _ _ _ _)
    split
    · rename_i dot
      split
      · exact .nil
      · simp only [Bool.and_eq_true, beq_iff_eq] at dot
        obtain ⟨rfl, -⟩ := dot
        exact .cons (by decide) (ih _ _ _ _)
    split
    · rename_i sign
      split
      · simp only [Bool.and_eq_true, Bool.or_eq_true, beq_iff_eq] at sign
        obtain ⟨rfl | rfl, -⟩ := sign
        · exact .cons (by decide) (ih _ _ _ _)
        · exact .cons (by decide) (ih _ _ _ _)
      · exact .nil
    split
    · rename_i mark
      simp only [Bool.and_eq_true, Bool.or_eq_true, beq_iff_eq] at mark
      obtain ⟨rfl | rfl, -⟩ := mark
      · exact .cons (by decide) (ih _ _ _ _)
      · exact .cons (by decide) (ih _ _ _ _)
    · rw [take_wordLength]
      exact quiet_wordOf _

theorem quiet_numberMore (afterAt : Bool) (c : Char) (rest : List Char) :
    Quiet (rest.take (numberMore afterAt c rest)) := by
  unfold numberMore
  split
  · rename_i m more
    split
    · rename_i radix
      simp only [Bool.and_eq_true, isRadixMark, Bool.or_eq_true, beq_iff_eq] at radix
      rw [List.take_succ_cons, take_wordLength]
      refine .cons ?_ (quiet_wordOf more)
      obtain ⟨-, ((rfl | rfl) | rfl) | rfl⟩ := radix <;> decide
    · exact quiet_numberLength _ _ _ _ _
  · exact .nil

/-- A lock is a word, blanks and a word. -/
theorem quiet_lock {cs : List Char} {n : Nat} (lock : lockLength? cs = some n) :
    Quiet (cs.take n) := by
  unfold lockLength? at lock
  dsimp only at lock
  split at lock
  · cases lock
    rw [List.take_add, List.take_add, take_wordLength]
    refine .append (.append (quiet_wordOf cs) ?_) ?_
    · rw [← List.prefix_iff_eq_take.mp (List.takeWhile_prefix Text.isBlank)]
      exact .takeWhile (by decide) _
    · rw [take_wordLength]
      exact quiet_wordOf _
  · cases lock

/-! ### Leads -/

/-- Only capitals are made of other characters. -/
theorem eq_toUpper {c : Char} (other : c.toUpper.isUpper = false) : c = c.toUpper := by
  have kept : ∀ n < 123, (Char.ofNat n).toUpper.isUpper = false →
      Char.ofNat n = (Char.ofNat n).toUpper := by decide
  by_cases small : 'a'.val ≤ c.val ∧ c.val ≤ 'z'.val
  · have code : c.toNat ≤ 122 := small.2
    rw [← Char.ofNat_toNat c] at other ⊢
    exact kept c.toNat (by omega) other
  · unfold Char.toUpper
    rw [dif_neg small]

theorem mem_of_mem_map_toUpper {d : Char} {cs : List Char} (other : d.isUpper = false)
    (member : d ∈ cs.map Char.toUpper) : d ∈ cs := by
  obtain ⟨c, member, rfl⟩ := List.mem_map.mp member
  rwa [← eq_toUpper other]

def Lead.isOperator : Lead → Bool
  | .operator => true
  | _ => false

theorem eq_operator {lead : Lead} (h : lead.isOperator = true) : lead = .operator := by
  cases lead <;> first | rfl | cases h

/-- What stands at the head of a text for a lead, in capitals. -/
theorem lead?_prefix {cs : List Char} {p : List Char × Lead} (found : lead? cs = some p) :
    p ∈ leads ∧ p.1 = (cs.take p.1.length).map Char.toUpper := by
  unfold lead? at found
  let head := (cs.take longestLead).map Char.toUpper
  have before : p.1 <+: head := List.isPrefixOf_iff_prefix.mp
    (List.find?_some (p := fun q : List Char × Lead => q.1.isPrefixOf head) found)
  have short : ∀ q ∈ leads, q.1.length ≤ longestLead := by decide
  have member : p ∈ leads := List.mem_of_find?_eq_some found
  refine ⟨member, ?_⟩
  have same := List.prefix_iff_eq_take.mp before
  rw [← List.map_take, List.take_take, Nat.min_eq_left (short p member)] at same
  exact same

/-- A lead in an unquoted text is an operator. Only its head may be a question mark. -/
theorem lead?_unquoted {c : Char} {rest : List Char} (unquoted : Unquoted (c :: rest))
    {p : List Char × Lead} (found : lead? (c :: rest) = some p) :
    p.2 = .operator ∧ ';' ∉ rest.take (p.1.length - 1) ∧
      (c ≠ '?' → '?' ∉ rest.take (p.1.length - 1)) := by
  obtain ⟨member, same⟩ := lead?_prefix found
  have shape : leads.all (fun q => q.1.any quoting.contains ||
      (q.2.isOperator && !q.1.isEmpty && !q.1.contains ';' &&
        (q.1.head? == some '?' || !q.1.contains '?'))) = true := by decide
  have shape := List.all_eq_true.mp shape p member
  simp only [Bool.or_eq_true, Bool.and_eq_true, List.any_eq_true, Bool.not_eq_true',
    List.contains_eq_mem, decide_eq_true_eq, decide_eq_false_iff_not, beq_iff_eq,
    List.isEmpty_eq_false_iff] at shape
  rcases shape with ⟨d, read, quotes⟩ | ⟨⟨⟨operator, filled⟩, unseparated⟩, only⟩
  · have capital : d.isUpper = false := by
      have none : quoting.all (fun d => !d.isUpper) = true := by decide
      simpa using List.all_eq_true.mp none d (List.contains_iff_mem.mp (by simpa using quotes))
    rw [same] at read
    have inside := List.mem_of_mem_take (mem_of_mem_map_toUpper capital read)
    exact (unquoted d inside quotes).elim
  · obtain ⟨k, length⟩ : ∃ k, p.1.length = k + 1 := Nat.exists_eq_add_one.mpr (List.length_pos_iff.mpr filled)
    rw [length, List.take_succ_cons, List.map_cons] at same
    have behind {d : Char} (kept : d.toUpper = d) (read : d ∈ rest.take k) : d ∈ p.1 := by
      rw [same]
      exact List.mem_cons_of_mem _ (List.mem_map.mpr ⟨d, read, kept⟩)
    rw [length, Nat.add_sub_cancel]
    refine ⟨eq_operator operator, fun read => unseparated (behind rfl read), fun other read => ?_⟩
    rcases only with head | none
    · rw [same, List.head?_cons] at head
      have capital : c.toUpper = '?' := Option.some.inj head
      have small : c = c.toUpper := eq_toUpper (by rw [capital]; rfl)
      exact other (small.trans capital)
    · exact none (behind rfl read)

/-! ### Lexemes -/

theorem lead?_question {rest : List Char} (single : ¬ ['?'] <+: rest)
    (uncast : ¬ [':', ':'] <+: rest) : lead? ('?' :: rest) = none := by
  cases found : lead? ('?' :: rest) with
  | none => rfl
  | some p =>
    obtain ⟨member, same⟩ := lead?_prefix found
    have begun : p.1.head? = some '?' ∨ p.1 = [] := by
      cases length : p.1.length with
      | zero => exact .inr (List.length_eq_zero_iff.mp length)
      | succ k =>
        rw [same, length]
        exact .inl rfl
    have only : leads.all (fun q => q.1 == ['?', '?'] || q.1 == ['?', ':', ':'] ||
        (!q.1.isEmpty && q.1.head? != some '?')) = true := by decide
    have only := List.all_eq_true.mp only p member
    simp only [Bool.or_eq_true, Bool.and_eq_true, Bool.not_eq_true', beq_iff_eq, bne_iff_ne,
      List.isEmpty_eq_false_iff] at only
    have behind {q : List Char} (known : p.1 = '?' :: q) (low : q.any Char.isUpper = false) :
        q <+: rest := by
      rw [known, List.length_cons, List.take_succ_cons, List.map_cons] at same
      have same := (List.cons.inj same).2
      have kept : (rest.take q.length).map Char.toUpper = rest.take q.length := by
        refine (List.map_congr_left fun d read => ?_).trans (List.map_id _)
        have capital : d.toUpper ∈ q := by
          rw [same]
          exact List.mem_map.mpr ⟨d, read, rfl⟩
        exact (eq_toUpper (by simpa using List.any_eq_false.mp low _ capital)).symm
      rw [same, kept]
      exact List.take_prefix _ _
    rcases only with (double | cast) | ⟨filled, other⟩
    · exact (single (behind double rfl)).elim
    · exact (uncast (behind cast rfl)).elim
    · exact (begun.elim other filled).elim

/-- A question mark that is read by itself is a placeholder. Two of them are an operator, and so is
one with two colons. -/
theorem lexeme_question_iff {prev : Option TokenKind} {pos : Nat} {rest : List Char} :
    lexeme prev pos '?' rest = .ok ⟨some .placeholder, 0⟩ ↔
      ¬ ['?'] <+: rest ∧ ¬ [':', ':'] <+: rest := by
  constructor
  · refine fun read => ⟨?_, ?_⟩
    · rintro ⟨more, rfl⟩
      cases read
    · rintro ⟨more, rfl⟩
      cases read
  · rintro ⟨single, uncast⟩
    simp only [lexeme, lead?_question single uncast]
    rfl

/-- Every lexeme of an unquoted text is a token without a separator behind its head. -/
theorem lexeme_unquoted (prev : Option TokenKind) (pos : Nat) {c : Char} {rest : List Char}
    (unquoted : Unquoted (c :: rest)) :
    ∃ kind more, lexeme prev pos c rest = .ok ⟨some kind, more⟩ ∧ ';' ∉ rest.take more ∧
      (c ≠ '?' → '?' ∉ rest.take more) := by
  have quiet {more : Nat} (h : Quiet (rest.take more)) : ';' ∉ rest.take more ∧
      (c ≠ '?' → '?' ∉ rest.take more) :=
    ⟨fun member => (h ';' member).1 rfl, fun _ member => (h '?' member).2 rfl⟩
  -- The same of a lexeme that is known with its head.
  have whole {n : Nat} (h : Quiet ((c :: rest).take n)) : Quiet (rest.take (n - 1)) := by
    cases n with
    | zero => exact .nil
    | succ n => exact h.tail
  unfold lexeme
  split
  · exact ⟨_, _, rfl, quiet (quiet_numberMore _ c rest)⟩
  split
  · rename_i quoted
    rw [eq_of_beq quoted] at unquoted
    exact (unquoted _ List.mem_cons_self (by decide)).elim
  split
  · rename_i text lead found
    obtain ⟨operator, apart⟩ := lead?_unquoted unquoted found
    dsimp only at operator apart
    subst operator
    exact ⟨_, _, rfl, apart⟩
  split
  · rename_i n lock
    exact ⟨_, _, rfl, quiet (whole (quiet_lock lock))⟩
  split
  · exact ⟨_, _, rfl, quiet .nil⟩
  · refine ⟨_, _, rfl, quiet (whole ?_)⟩
    rw [take_wordLength]
    show Quiet ((c :: rest).take (wordLength (c :: rest)))
    rw [take_wordLength]
    exact quiet_wordOf _

theorem lexeme_separator (prev : Option TokenKind) (pos : Nat) (rest : List Char) :
    lexeme prev pos ';' rest = .ok ⟨some .separator, 0⟩ := rfl

/-- Every unquoted text has tokens. -/
theorem scan_unquoted (zone : Zone) (prev : Option TokenKind) (inside pos : Nat) {cs : List Char}
    (unquoted : Unquoted cs) : ∃ ts, scan zone prev inside pos cs = .ok ts := by
  induction cs generalizing zone prev inside pos with
  | nil => exact ⟨_, rfl⟩
  | cons c rest ih =>
    have later (zone : Zone) (prev : Option TokenKind) (inside : Nat) :
        ∃ ts, scan zone prev inside (pos + 1) rest = .ok ts := ih zone prev inside _ unquoted.tail
    cases inside with
    | succ n => exact later zone prev n
    | zero =>
      obtain ⟨kind, more, lexed, -⟩ := lexeme_unquoted prev pos unquoted
      rw [scan]
      split
      · exact later zone prev 0
      split
      · obtain ⟨ts, read⟩ := later .statement (some .separator) 0
        exact ⟨_, map_eq_ok.mpr ⟨ts, read, rfl⟩⟩
      rw [lexed]
      dsimp only
      split
      · exact later _ _ _
      · obtain ⟨ts, read⟩ := later _ (some kind) more
        exact ⟨_, map_eq_ok.mpr ⟨ts, read, rfl⟩⟩

end TableQuery.Sql
