import TableQuery.Sql.Scan

/-!
# Words and marks

How the lexemes of plain texts are read: names, keywords, decimal digits, and marks by themselves.
`lexeme_name` is the main lemma. A name in front of a blank, a comma, a point, an equals sign or a
closing bracket is one word, since nothing that is read as one goes on from letters with such a mark.
-/

namespace TableQuery.Sql

def isLetter (c : Char) : Bool := c.isAlpha || c == '_'

def isLetterOrDigit (c : Char) : Bool := isLetter c || Text.isAsciiDigit c

def isName : List Char → Bool
  | [] => false
  | c :: rest => isLetter c && rest.all isLetterOrDigit

def stopsAt (stops : List Char) : List Char → Bool
  | [] => true
  | c :: _ => stops.contains c

def nameStops : List Char := [' ', ',', '.', '=', ')']

/-! ### Characters -/

theorem isLetterOrDigit_of_isLetter {c : Char} (h : isLetter c = true) :
    isLetterOrDigit c = true := by
  simp [isLetterOrDigit, h]

theorem isName_all {w : List Char} (h : isName w = true) : ∀ c ∈ w, isLetterOrDigit c = true := by
  cases w with
  | nil => simp
  | cons c rest =>
    simp only [isName, Bool.and_eq_true, List.all_eq_true] at h
    intro d member
    rcases List.mem_cons.mp member with rfl | later
    · exact isLetterOrDigit_of_isLetter h.1
    · exact h.2 d later

theorem code_of_isLetterOrDigit {c : Char} (h : isLetterOrDigit c = true) :
    48 ≤ c.toNat ∧ c.toNat ≤ 122 := by
  delta isLetterOrDigit isLetter Char.isAlpha Char.isUpper Char.isLower Text.isAsciiDigit at h
  simp only [Bool.or_eq_true, Bool.and_eq_true, decide_eq_true_eq, beq_iff_eq] at h
  rcases h with ((h | h) | rfl) | h
  · have low : 65 ≤ c.toNat := h.1
    have high : c.toNat ≤ 90 := h.2
    omega
  · have low : 97 ≤ c.toNat := h.1
    have high : c.toNat ≤ 122 := h.2
    omega
  · decide
  · omega

theorem not_isBlank_of_isLetterOrDigit {c : Char} (h : isLetterOrDigit c = true) :
    Text.isBlank c = false := by
  have ⟨low, high⟩ := code_of_isLetterOrDigit h
  simp only [Text.isBlank, Bool.or_eq_false_iff, Bool.and_eq_false_iff, decide_eq_false_iff_not,
    beq_eq_false_iff_ne]
  omega

theorem not_isMark_of_isLetterOrDigit {c : Char} (h : isLetterOrDigit c = true) :
    isMark c = false := by
  have none : marks.all (fun m => !isLetterOrDigit m) = true := by decide
  cases mark : isMark c with
  | false => rfl
  | true =>
    have other := List.all_eq_true.mp none c (List.contains_iff_mem.mp mark)
    rw [h] at other
    cases other

theorem not_isBlank_of_isMark {c : Char} (mark : isMark c = true) : Text.isBlank c = false := by
  have none : marks.all (fun m => !Text.isBlank m) = true := by decide
  have visible := List.all_eq_true.mp none c (List.contains_iff_mem.mp mark)
  rwa [Bool.not_eq_true'] at visible

theorem not_endsWord_of_isLetterOrDigit {c : Char} (h : isLetterOrDigit c = true) :
    endsWord c = false := by
  rw [endsWord, not_isBlank_of_isLetterOrDigit h, not_isMark_of_isLetterOrDigit h]
  rfl

theorem not_isAsciiDigit_of_isLetter {c : Char} (h : isLetter c = true) :
    Text.isAsciiDigit c = false := by
  delta isLetter Char.isAlpha Char.isUpper Char.isLower at h
  simp only [Bool.or_eq_true, Bool.and_eq_true, decide_eq_true_eq, beq_iff_eq] at h
  simp only [Text.isAsciiDigit, Bool.and_eq_false_iff, decide_eq_false_iff_not]
  rcases h with (h | h) | rfl
  · have low : 65 ≤ c.toNat := h.1
    omega
  · have low : 97 ≤ c.toNat := h.1
    omega
  · decide

theorem isLetterOrDigit_toUpper {c : Char} (h : isLetterOrDigit c = true) :
    isLetterOrDigit c.toUpper = true := by
  have kept : ∀ n < 123, isLetterOrDigit (Char.ofNat n) = true →
      isLetterOrDigit (Char.ofNat n).toUpper = true := by decide
  have code := (code_of_isLetterOrDigit h).2
  rw [← Char.ofNat_toNat c] at h ⊢
  exact kept c.toNat (by omega) h

/-! ### Paths -/

/-- Names with points between them. -/
inductive IsPath : List Char → Prop where
  | name {w : List Char} (named : isName w = true) : IsPath w
  | point {w p : List Char} (named : isName w = true) (rest : IsPath p) : IsPath (w ++ '.' :: p)

theorem IsPath.append {p q : List Char} (hp : IsPath p) (hq : IsPath q) :
    IsPath (p ++ '.' :: q) := by
  induction hp with
  | name named => exact .point named hq
  | point named _ ih =>
    rw [List.append_assoc]
    exact .point named ih

theorem IsPath.ne_nil {p : List Char} (h : IsPath p) : p ≠ [] := by
  cases h with
  | name named =>
    rintro rfl
    cases named
  | point => simp

theorem IsPath.unmarked {p : List Char} (h : IsPath p) : '?' ∉ p := by
  have unmarked {w : List Char} (named : isName w = true) : '?' ∉ w := fun member =>
    absurd (isName_all named '?' member) (by decide)
  induction h with
  | name named => exact unmarked named
  | point named _ ih => simp [unmarked named, ih]

/-! ### The length of a word -/

def wordOf (cs : List Char) : List Char := cs.takeWhile fun c => !endsWord c

theorem take_wordLength (cs : List Char) : cs.take (wordLength cs) = wordOf cs :=
  (List.prefix_iff_eq_take.mp (List.takeWhile_prefix _)).symm

theorem wordOf_append {w rest : List Char} (plain : ∀ c ∈ w, isLetterOrDigit c = true) :
    wordOf (w ++ rest) = w ++ wordOf rest := by
  refine List.takeWhile_append_of_pos fun c member => ?_
  simp [not_endsWord_of_isLetterOrDigit (plain c member)]

theorem wordOf_eq_nil {rest : List Char} (stop : stopsAt nameStops rest = true) :
    wordOf rest = [] := by
  have ends : nameStops.all endsWord = true := by decide
  cases rest with
  | nil => rfl
  | cons c rest =>
    have ended : endsWord c = true :=
      List.all_eq_true.mp ends c (List.contains_iff_mem.mp stop)
    simp [wordOf, ended]

theorem wordOf_name {w rest : List Char} (plain : ∀ c ∈ w, isLetterOrDigit c = true)
    (stop : stopsAt nameStops rest = true) : wordOf (w ++ rest) = w := by
  rw [wordOf_append plain, wordOf_eq_nil stop, List.append_nil]

/-! ### Leads -/

theorem mem_nameStops_of_find? {w rest : List Char} {n : Nat} {m : Char}
    (plain : ∀ c ∈ w, isLetterOrDigit c = true) (stop : stopsAt nameStops rest = true)
    (found : (((w ++ rest).take n).map Char.toUpper).find? endsWord = some m) : m ∈ nameStops := by
  induction w generalizing n with
  | nil =>
    cases rest with
    | nil => simp at found
    | cons d rest =>
      cases n with
      | zero => simp at found
      | succ n =>
        have kept : nameStops.all (fun d => d.toUpper == d && endsWord d) = true := by decide
        have member : d ∈ nameStops := List.contains_iff_mem.mp stop
        have ⟨same, ended⟩ : d.toUpper = d ∧ endsWord d = true := by
          simpa using List.all_eq_true.mp kept d member
        simp only [List.nil_append, List.take_succ_cons, List.map_cons, List.find?_cons, same,
          ended, Option.some.injEq] at found
        rwa [← found]
  | cons c w ih =>
    cases n with
    | zero => simp at found
    | succ n =>
      have inside := not_endsWord_of_isLetterOrDigit
        (isLetterOrDigit_toUpper (plain c List.mem_cons_self))
      simp only [List.cons_append, List.take_succ_cons, List.map_cons, List.find?_cons,
        inside] at found
      exact ih (fun d member => plain d (List.mem_cons_of_mem _ member)) found

/-- No lead begins at a name, because each goes on with a dash or a quotation mark. -/
theorem lead?_name {c : Char} {w rest : List Char}
    (plain : ∀ d ∈ c :: w, isLetterOrDigit d = true) (stop : stopsAt nameStops rest = true) :
    lead? (c :: w ++ rest) = none := by
  have shape : leads.all (fun p => (p.1.find? endsWord).any fun m =>
      p.1.head? == some m || !nameStops.contains m) = true := by decide
  cases found : lead? (c :: w ++ rest) with
  | none => rfl
  | some p =>
    unfold lead? at found
    have member : p ∈ leads := List.mem_of_find?_eq_some found
    let head := ((c :: w ++ rest).take longestLead).map Char.toUpper
    have before : p.1 <+: head := List.isPrefixOf_iff_prefix.mp
      (List.find?_some (p := fun q : List Char × Lead => q.1.isPrefixOf head) found)
    -- The first character of a lead that ends a word is either its head, where a name has a
    -- letter, or one that never stands behind a name.
    obtain ⟨m, first, kind⟩ := (Option.any_eq_true _ _).mp (List.all_eq_true.mp shape p member)
    have kind : p.1.head? = some m ∨ m ∉ nameStops := by simpa using kind
    rcases kind with begins | other
    · obtain ⟨more, same⟩ := before
      obtain ⟨tail, begun⟩ : ∃ tail, p.1 = m :: tail := List.head?_eq_some_iff.mp begins
      rw [begun] at same
      have capital : m = c.toUpper := (List.cons.inj same).1
      have inside := isLetterOrDigit_toUpper (plain c List.mem_cons_self)
      have ended : endsWord m = true := List.find?_some first
      rw [capital, not_endsWord_of_isLetterOrDigit inside] at ended
      cases ended
    · exact absurd (mem_nameStops_of_find? plain stop (before.find?_eq_some first)) other

/-! ### Locks -/

theorem drop_takeWhile (p : Char → Bool) (cs : List Char) :
    cs.drop (cs.takeWhile p).length = cs.dropWhile p := by
  calc cs.drop (cs.takeWhile p).length
      = (cs.takeWhile p ++ cs.dropWhile p).drop (cs.takeWhile p).length := by
        rw [List.takeWhile_append_dropWhile]
    _ = cs.dropWhile p := List.drop_left

/-- A name begins a lock only if it is a word for locks and `TABLES` comes next. -/
theorem lockLength?_name {w rest : List Char} (plain : ∀ c ∈ w, isLetterOrDigit c = true)
    (stop : stopsAt nameStops rest = true)
    (unlocked : w.map Char.toUpper ∈ lockWords →
      (wordOf (rest.dropWhile Text.isBlank)).map Char.toUpper ≠ "TABLES".toList) :
    lockLength? (w ++ rest) = none := by
  have first : wordLength (w ++ rest) = w.length := congrArg List.length (wordOf_name plain stop)
  have word : (w ++ rest).take w.length = w := List.take_left
  have behind : (w ++ rest).drop w.length = rest := List.drop_left
  have beyond : (w ++ rest).drop (w.length + (rest.takeWhile Text.isBlank).length) =
      rest.dropWhile Text.isBlank := by
    rw [← List.drop_drop, behind, drop_takeWhile]
  unfold lockLength?
  simp only [first, word, behind, beyond, take_wordLength]
  refine if_neg fun locks => ?_
  simp only [Bool.and_eq_true, List.contains_iff_mem, beq_iff_eq] at locks
  exact unlocked locks.1.1 locks.2

/-! ### Lexemes -/

theorem lexeme_name {prev : Option TokenKind} {pos : Nat} {c : Char} {w rest : List Char}
    (named : isName (c :: w) = true) (stop : stopsAt nameStops rest = true)
    (unlocked : lockLength? (c :: w ++ rest) = none) :
    lexeme prev pos c (w ++ rest) = .ok ⟨some (wordKind prev (c :: w)), w.length⟩ := by
  have plain := isName_all named
  have letter : isLetter c = true := by
    simp only [isName, Bool.and_eq_true] at named
    exact named.1
  have quoted : (c == Text.backquote) = false := by
    cases same : c == Text.backquote with
    | false => rfl
    | true =>
      rw [eq_of_beq same] at letter
      exact absurd letter (by decide)
  have whole : (c :: w ++ rest).take (wordLength (c :: w ++ rest)) = c :: w := by
    have length : wordLength (c :: w ++ rest) = (c :: w).length :=
      congrArg List.length (wordOf_name plain stop)
    rw [length, List.take_left]
  have lead := lead?_name plain stop
  have inside := not_isMark_of_isLetterOrDigit (plain c List.mem_cons_self)
  rw [List.cons_append] at lead unlocked whole
  simp only [lexeme, not_isAsciiDigit_of_isLetter letter, quoted, lead, unlocked, inside, whole]
  rfl

theorem numberLength_digits {afterAt point exponent signs : Bool} {ds rest : List Char}
    (digits : ∀ d ∈ ds, Text.isAsciiDigit d = true) (stop : stopsAt [' '] rest = true) :
    numberLength afterAt point exponent signs (ds ++ rest) = ds.length := by
  induction ds with
  | nil =>
    cases rest with
    | nil => rfl
    | cons c rest =>
      obtain rfl : c = ' ' := by simpa [stopsAt] using stop
      cases signs <;> rfl
  | cons d ds ih =>
    have digit := digits d List.mem_cons_self
    rw [List.cons_append, numberLength, if_pos digit,
      ih fun e member => digits e (List.mem_cons_of_mem _ member), List.length_cons]

theorem not_isRadixMark {d : Char} (digit : Text.isAsciiDigit d = true) : isRadixMark d = false := by
  cases radix : isRadixMark d with
  | false => rfl
  | true =>
    simp only [isRadixMark, Bool.or_eq_true, beq_iff_eq] at radix
    rcases radix with ((rfl | rfl) | rfl) | rfl <;> cases digit

theorem lexeme_digits {prev : Option TokenKind} {pos : Nat} {c : Char} {ds rest : List Char}
    (digits : ∀ d ∈ c :: ds, Text.isAsciiDigit d = true) (stop : stopsAt [' '] rest = true) :
    lexeme prev pos c (ds ++ rest) = .ok ⟨some .other, ds.length⟩ := by
  -- A zero would begin a hexadecimal or binary number before `x` or `b`.
  have head : ∀ m more, ds ++ rest = m :: more → isRadixMark m = false := by
    intro m more same
    cases ds with
    | nil =>
      obtain rfl : rest = m :: more := same
      obtain rfl : m = ' ' := by simpa [stopsAt] using stop
      rfl
    | cons d ds =>
      obtain rfl : d = m := (List.cons.inj same).1
      exact not_isRadixMark (digits d (by simp))
  have length (afterAt : Bool) : numberMore afterAt c (ds ++ rest) = ds.length := by
    have read : numberLength afterAt false false false (ds ++ rest) = ds.length :=
      numberLength_digits (fun d member => digits d (List.mem_cons_of_mem _ member)) stop
    unfold numberMore
    split
    · rename_i m more same
      rw [head m more same, Bool.and_false]
      exact read
    · rename_i same
      rw [(List.append_eq_nil_iff.mp same).1]
      rfl
  rw [lexeme, if_pos (digits c List.mem_cons_self), length]

/-- The marks of plain statements that begin no lead. -/
def singleMarks : List Char := [',', '.', '(', ')', '*']

theorem isMark_of_single {c : Char} (mark : c ∈ singleMarks) : isMark c = true ∧ c ≠ '?' := by
  have all : singleMarks.all (fun c => isMark c && c != '?') = true := by decide
  simpa using List.all_eq_true.mp all c mark

theorem lexeme_mark {prev : Option TokenKind} {pos : Nat} {c : Char} (rest : List Char)
    (mark : c ∈ singleMarks) : lexeme prev pos c rest = .ok ⟨some .other, 0⟩ := by
  simp only [singleMarks, List.mem_cons, List.not_mem_nil, or_false] at mark
  rcases mark with rfl | rfl | rfl | rfl | rfl <;> rfl

theorem lexeme_question {prev : Option TokenKind} {pos : Nat} {rest : List Char}
    (stop : stopsAt [' ', ',', ')'] rest = true) :
    lexeme prev pos '?' rest = .ok ⟨some .placeholder, 0⟩ := by
  cases rest with
  | nil => rfl
  | cons c rest =>
    have next : c ∈ [' ', ',', ')'] := by simpa [stopsAt] using stop
    simp only [List.mem_cons, List.not_mem_nil, or_false] at next
    rcases next with rfl | rfl | rfl <;> rfl

theorem lexeme_assign {prev : Option TokenKind} {pos : Nat} (rest : List Char) :
    lexeme prev pos '=' ('?' :: rest) = .ok ⟨some .other, 0⟩ := rfl

def operators : List (List Char) :=
  ["=", "!=", "<>", "<", "<=", ">", ">=", "<=>"].map String.toList

theorem lexeme_operator {prev : Option TokenKind} {pos : Nat} {c : Char} {op : List Char}
    (rest : List Char) (operator : c :: op ∈ operators) :
    lexeme prev pos c (op ++ ' ' :: rest) = .ok ⟨some .other, op.length⟩ := by
  simp only [operators, List.map_cons, List.map_nil, List.mem_cons, List.not_mem_nil,
    or_false] at operator
  rcases operator with h | h | h | h | h | h | h | h <;> cases h <;> rfl

end TableQuery.Sql
