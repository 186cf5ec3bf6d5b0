import TableQuery.Text.Quoted

/-!
# The marks of a condition

A condition is read as marks: brackets, keywords, words, runs of signs and quoted texts.
`marksFrom` goes through a text character by character. Texts in which something else than `AND`,
`OR` and `NOT` combines conditions, or in which a comment begins, have no marks. A blank ends a mark,
so the marks of two texts with a blank between them are the marks of both (`marksFrom_blank`).
-/

namespace TableQuery.Condition

inductive Keyword where
  | and
  | or
  | not
  | between
  | case
  | done
  deriving DecidableEq

inductive Mark where
  | opening
  | closing
  | keyword (k : Keyword)
  | word (cs : List Char)
  | signs (cs : List Char)
  | quoted (mark : Char) (cs : List Char)
  deriving DecidableEq

/-- What has been read of a mark that may go on. -/
inductive Pending where
  | nothing
  | word (cs : List Char)
  | signs (cs : List Char)
  | quoted (mark : Char) (cs : List Char)
  | escaped (mark : Char) (cs : List Char)

/-! ### Words and signs -/

def isGap (c : Char) : Bool := c.toNat ≤ 32

def isWordChar (c : Char) : Bool :=
  c.isAlphanum || c == '_' || c == '.' || c == '$' || c == '@' || 128 ≤ c.toNat

def isQuote (c : Char) : Bool :=
  c == Text.apostrophe || c == Text.doubleQuote || c == Text.backquote

def keywords : List (List Char × Keyword) :=
  [(['A', 'N', 'D'], .and), (['O', 'R'], .or), (['N', 'O', 'T'], .not),
    (['B', 'E', 'T', 'W', 'E', 'E', 'N'], .between), (['C', 'A', 'S', 'E'], .case),
    (['E', 'N', 'D'], .done)]

/-- The mark of a word, whatever its case. `XOR` is none. -/
def wordMark? (cs : List Char) : Option Mark :=
  let capitals := cs.map Char.toUpper
  if capitals = ['X', 'O', 'R'] then none
  else
    match keywords.lookup capitals with
    | some k => some (.keyword k)
    | none => some (.word cs)

/-- Signs that combine conditions, assign, or begin a comment. -/
def foreignPair (c d : Char) : Bool :=
  (c == '|' && d == '|') || (c == '&' && d == '&') || (c == '/' && d == '*') ||
    (c == ':' && d == '=') || (c == '!' && d != '=')

def foreignSign (c : Char) : Bool := c == '#' || c == ';'

def areSigns : List Char → Bool
  | [] => true
  | [c] => !foreignSign c && c != '!'
  | c :: d :: rest => !foreignSign c && !foreignPair c d && areSigns (d :: rest)

/-- Two dashes in front of a blank begin a comment. -/
def endsInDashes (cs : List Char) : Bool := ['-', '-'].isSuffixOf cs

/-! ### Marks -/

/-- The mark that ends here, in front of a blank or of something else. -/
def Pending.flush (gap : Bool) : Pending → Option (List Mark)
  | .nothing => some []
  | .word cs => (wordMark? cs).map ([·])
  | .signs cs => if areSigns cs && !(gap && endsInDashes cs) then some [.signs cs] else none
  | .quoted .. => none
  | .escaped .. => none

/-- Goes on behind a mark that ends here. -/
def Pending.turn (p : Pending) (more : List Mark) (next : Pending) : Option (List Mark × Pending) :=
  (p.flush false).map fun ms => (ms ++ more, next)

/-- The marks that a character ends, and what is pending behind it. Between backquotes a backslash
is a character like any other. -/
def Pending.step (p : Pending) (c : Char) : Option (List Mark × Pending) :=
  match p with
  | .quoted mark cs =>
    if c == mark then some ([.quoted mark cs], .nothing)
    else if c == Text.backslash && mark != Text.backquote then some ([], .escaped mark cs)
    else some ([], .quoted mark (cs ++ [c]))
  | .escaped mark cs => some ([], .quoted mark (cs ++ [Text.backslash, c]))
  | p =>
    if isGap c then (p.flush true).map fun ms => (ms, .nothing)
    else if c == '(' then p.turn [.opening] .nothing
    else if c == ')' then p.turn [.closing] .nothing
    else if isQuote c then p.turn [] (.quoted c [])
    else if isWordChar c then
      match p with
      | .word cs => some ([], .word (cs ++ [c]))
      | p => p.turn [] (.word [c])
    else
      match p with
      | .signs cs => some ([], .signs (cs ++ [c]))
      | p => p.turn [] (.signs [c])

def marksFrom (p : Pending) : List Char → Option (List Mark)
  | [] => p.flush true
  | c :: rest =>
    match p.step c with
    | some (ms, p') => (marksFrom p' rest).map (ms ++ ·)
    | none => none

def marks? (text : String) : Option (List Mark) := marksFrom .nothing text.toList

theorem marksFrom_cons {p p' : Pending} {c : Char} {ms : List Mark} (step : p.step c = some (ms, p'))
    (rest : List Char) : marksFrom p (c :: rest) = (marksFrom p' rest).map (ms ++ ·) := by
  rw [marksFrom, step]

/-- What ends with its text ends at a blank. -/
theorem step_blank {p : Pending} {ms : List Mark} (read : p.flush true = some ms) :
    p.step ' ' = some (ms, .nothing) := by
  have gap : isGap ' ' = true := rfl
  cases p with
  | nothing | word cs | signs cs =>
    simp only [Pending.step, gap, if_true, read, Option.map_some]
  | quoted mark cs | escaped mark cs => cases read

/-- The marks of two texts with a blank between them are the marks of both. -/
theorem marksFrom_blank {p : Pending} {cs : List Char} {ms : List Mark}
    (read : marksFrom p cs = some ms) (rest : List Char) :
    marksFrom p (cs ++ ' ' :: rest) = (marksFrom .nothing rest).map (ms ++ ·) := by
  induction cs generalizing p ms with
  | nil => exact marksFrom_cons (step_blank read) rest
  | cons c cs ih =>
    cases step : p.step c with
    | none =>
      rw [marksFrom, step] at read
      cases read
    | some next =>
      obtain ⟨first, p'⟩ := next
      rw [marksFrom_cons step] at read
      obtain ⟨later, read', rfl⟩ := Option.map_eq_some_iff.mp read
      rw [List.cons_append, marksFrom_cons step, ih read', Option.map_map]
      congr 1
      funext ls
      exact (List.append_assoc _ _ _).symm

theorem marks?_blank {s : String} {ms : List Mark} (read : marks? s = some ms) (t : String) :
    marks? (s ++ " " ++ t) = (marks? t).map (ms ++ ·) := by
  have letters : (s ++ " " ++ t).toList = s.toList ++ ' ' :: t.toList := by
    simp only [String.toList_append, List.append_assoc]
    rfl
  unfold marks?
  rw [letters]
  exact marksFrom_blank read t.toList

/-! ### Words -/

theorem code_of_isWordChar {c : Char} (inWord : isWordChar c = true) :
    c.toNat = 36 ∨ c.toNat = 46 ∨ 48 ≤ c.toNat ∧ c.toNat ≤ 57 ∨ 64 ≤ c.toNat ∧ c.toNat ≤ 90 ∨
      c.toNat = 95 ∨ 97 ≤ c.toNat ∧ c.toNat ≤ 122 ∨ 128 ≤ c.toNat := by
  delta isWordChar Char.isAlphanum Char.isAlpha Char.isUpper Char.isLower Char.isDigit at inWord
  simp only [Bool.or_eq_true, Bool.and_eq_true, decide_eq_true_eq, beq_iff_eq] at inWord
  rcases inWord with ((((((h | h) | h) | rfl) | rfl) | rfl) | rfl) | h
  · have low : 65 ≤ c.toNat := h.1
    have high : c.toNat ≤ 90 := h.2
    omega
  · have low : 97 ≤ c.toNat := h.1
    have high : c.toNat ≤ 122 := h.2
    omega
  · have low : 48 ≤ c.toNat := h.1
    have high : c.toNat ≤ 57 := h.2
    omega
  · decide
  · decide
  · decide
  · decide
  · omega

theorem isWordChar_plain {c : Char} (inWord : isWordChar c = true) :
    isGap c = false ∧ (c == '(') = false ∧ (c == ')') = false ∧ isQuote c = false := by
  have code := code_of_isWordChar inWord
  have other {d : Char} (outside : isWordChar d = false) : (c == d) = false := by
    refine beq_eq_false_iff_ne.mpr ?_
    rintro rfl
    rw [inWord] at outside
    cases outside
  refine ⟨decide_eq_false (by omega), other rfl, other rfl, ?_⟩
  unfold isQuote
  rw [other rfl, other rfl, other rfl]
  rfl

theorem step_word {c : Char} (inWord : isWordChar c = true) (cs : List Char) :
    Pending.step (.word cs) c = some ([], .word (cs ++ [c])) := by
  obtain ⟨gap, opening, closing, quote⟩ := isWordChar_plain inWord
  simp only [Pending.step, gap, opening, closing, quote, inWord, Bool.false_eq_true, if_false,
    if_true]

theorem marksFrom_word {w : List Char} (letters : ∀ c ∈ w, isWordChar c = true) (cs : List Char) :
    marksFrom (.word cs) w = (wordMark? (cs ++ w)).map ([·]) := by
  induction w generalizing cs with
  | nil =>
    rw [List.append_nil]
    rfl
  | cons c w ih =>
    have later := ih (fun d there => letters d (List.mem_cons_of_mem _ there)) (cs ++ [c])
    rw [marksFrom_cons (step_word (letters c List.mem_cons_self) cs), later, List.append_assoc,
      Option.map_map]
    rfl

/-- A word by itself is one mark. -/
theorem marks?_word {w : String} (filled : w.toList ≠ [])
    (letters : ∀ c ∈ w.toList, isWordChar c = true) :
    marks? w = (wordMark? w.toList).map ([·]) := by
  unfold marks?
  cases cs : w.toList with
  | nil => exact (filled cs).elim
  | cons c rest =>
    rw [cs] at letters
    obtain ⟨gap, opening, closing, quote⟩ := isWordChar_plain (letters c List.mem_cons_self)
    have first : Pending.step .nothing c = some ([], .word [c]) := by
      simp only [Pending.step, gap, opening, closing, quote, letters c List.mem_cons_self,
        Bool.false_eq_true, if_false, if_true]
      rfl
    rw [marksFrom_cons first,
      marksFrom_word (fun d there => letters d (List.mem_cons_of_mem _ there)) [c], Option.map_map]
    rfl

end TableQuery.Condition
