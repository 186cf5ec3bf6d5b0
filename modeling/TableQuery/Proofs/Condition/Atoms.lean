import TableQuery.Proofs.Builder.Plain
import TableQuery.Proofs.Condition.Reading

/-!
# Conditions that are one atom

A comparison or a membership of a qualified column is read as one atom, whatever the operator of the
comparison is, if no keyword but `NOT` and no bracket is in it.
-/

namespace TableQuery

namespace Condition

/-- A mark that goes on with an atom and changes nothing else. -/
def Mark.isInert : Mark → Bool
  | .word _ => true
  | .signs _ => true
  | .quoted _ _ => true
  | .keyword .not => true
  | _ => false

/-- An operator of marks that go on with an atom. -/
def IsOperator (operator : String) : Prop :=
  ∃ ms, marks? operator = some ms ∧ ∀ m ∈ ms, m.isInert = true

theorem isOperator_of_comparator {operator : String} (known : operator ∈ comparators) :
    IsOperator operator := by
  have all : comparators.all (fun o => (marks? o).any (·.all Mark.isInert)) = true := by decide
  have inert := List.all_eq_true.mp all operator known
  cases read : marks? operator with
  | none =>
    rw [read] at inert
    cases inert
  | some ms =>
    rw [read] at inert
    exact ⟨ms, read, List.all_eq_true.mp inert⟩

/-! ### Marks of one atom -/

theorem step_inert {m : Mark} (inert : m.isInert = true) (ms : List Mark)
    (brackets : List Bracket) (range : Bool) :
    Operand.step (.atom ms brackets range) m = some (.atom (ms ++ [m]) brackets range) := by
  cases m with
  | word | signs | quoted => cases brackets <;> rfl
  | keyword k =>
    cases k with
    | not => cases brackets <;> rfl
    | _ => cases inert
  | opening | closing => cases inert

theorem foldlM_inert {more : List Mark} (inert : ∀ m ∈ more, m.isInert = true) (ms : List Mark)
    (brackets : List Bracket) (range : Bool) :
    more.foldlM Operand.step (.atom ms brackets range) =
      some (.atom (ms ++ more) brackets range) := by
  induction more generalizing ms with
  | nil =>
    rw [List.append_nil]
    rfl
  | cons m more ih =>
    rw [List.foldlM_cons, step_inert (inert m List.mem_cons_self)]
    show more.foldlM Operand.step (.atom (ms ++ [m]) brackets range) = _
    rw [ih fun n there => inert n (List.mem_cons_of_mem _ there), List.append_assoc]
    rfl

/-- A word and marks that go on with it are one atom. -/
theorem isAtom_comparison (w : List Char) {more : List Mark}
    (inert : ∀ m ∈ more, m.isInert = true) : IsAtom (.word w :: more) :=
  foldlM_inert inert [.word w] [] false

/-- So are two words and marks in brackets behind them. -/
theorem isAtom_membership (w w' : List Char) {more : List Mark}
    (inert : ∀ m ∈ more, m.isInert = true) :
    IsAtom (.word w :: .word w' :: .opening :: (more ++ [.closing])) := by
  show (more ++ [Mark.closing]).foldlM Operand.step
    (.atom [.word w, .word w', .opening] [.round] false) = _
  rw [List.foldlM_append, foldlM_inert inert]
  rfl

/-! ### Columns -/

theorem isWordChar_of_isLetterOrDigit {c : Char} (inside : Sql.isLetterOrDigit c = true) :
    isWordChar c = true := by
  have digit (ascii : Text.isAsciiDigit c = true) : c.isDigit = true := by
    delta Text.isAsciiDigit at ascii
    delta Char.isDigit
    simp only [Bool.and_eq_true, decide_eq_true_eq] at ascii ⊢
    exact ascii
  delta Sql.isLetterOrDigit Sql.isLetter at inside
  delta isWordChar Char.isAlphanum
  simp only [Bool.or_eq_true] at inside ⊢
  rcases inside with (alpha | low) | ascii
  · simp [alpha]
  · simp [low]
  · simp [digit ascii]

theorem isWordChar_of_path {p : List Char} (path : Sql.IsPath p) :
    ∀ c ∈ p, isWordChar c = true := by
  have letter {w : List Char} (named : Sql.isName w = true) : ∀ c ∈ w, isWordChar c = true :=
    fun c there => isWordChar_of_isLetterOrDigit (Sql.isName_all named c there)
  induction path with
  | name named => exact letter named
  | point named _ ih =>
    intro c there
    rcases List.mem_append.mp there with there | there
    · exact letter named c there
    · rcases List.mem_cons.mp there with rfl | there
      · rfl
      · exact ih c there

/-- A word with a point in it is no keyword. -/
theorem wordMark?_pointed {w : List Char} (point : '.' ∈ w) : wordMark? w = some (.word w) := by
  have point' : '.' ∈ w.map Char.toUpper := List.mem_map.mpr ⟨'.', point, rfl⟩
  have exclusive : w.map Char.toUpper ≠ ['X', 'O', 'R'] := by
    intro same
    rw [same] at point'
    exact absurd point' (by decide)
  have unknown : keywords.lookup (w.map Char.toUpper) = none := by
    refine List.lookup_eq_none_iff.mpr fun entry known => ?_
    have plain : keywords.all (fun entry => !entry.1.contains '.') = true := by decide
    have other := List.all_eq_true.mp plain entry known
    refine bne_iff_ne.mpr ?_
    intro same
    rw [← same, List.contains_iff_mem.mpr point'] at other
    cases other
  simp only [wordMark?, exclusive, if_false, unknown]

/-- A column of a table is one word. -/
theorem marks?_column {column : String} (path : Sql.IsPath column.toList)
    (point : '.' ∈ column.toList) : marks? column = some [.word column.toList] := by
  rw [marks?_word path.ne_nil (isWordChar_of_path path), wordMark?_pointed point]
  rfl

variable {column : String}

theorem read?_comparison (path : Sql.IsPath column.toList) (point : '.' ∈ column.toList)
    {operator : String} (known : IsOperator operator) :
    ∃ ms, read? (column ++ " " ++ operator ++ " ?") = some [[.atom ms]] := by
  obtain ⟨ms, read, inert⟩ := known
  have text : column ++ " " ++ operator ++ " ?" = column ++ " " ++ (operator ++ " " ++ "?") := by
    simp only [String.append_assoc]
    rfl
  have mark : marks? "?" = some [.signs ['?']] := by decide
  have all : ∀ m ∈ ms ++ [.signs ['?']], m.isInert = true := by
    intro m there
    rcases List.mem_append.mp there with there | there
    · exact inert m there
    · rw [List.mem_singleton.mp there]
      rfl
  refine ⟨.word column.toList :: (ms ++ [.signs ['?']]), ?_⟩
  unfold read?
  rw [text, marks?_blank (marks?_column path point), marks?_blank read, mark]
  exact sumOf_atom (isAtom_comparison column.toList all)

/-- The placeholders between brackets, up to the closing one. -/
theorem marksFrom_placeholders (values : List Value) :
    ∃ ms, (∀ m ∈ ms, m.isInert = true) ∧
      marksFrom .nothing ((", ".intercalate (values.map fun _ => "?")).toList ++ [')']) =
        some (ms ++ [.closing]) := by
  induction values with
  | nil => exact ⟨[], nofun, rfl⟩
  | cons v values ih =>
    cases values with
    | nil =>
      refine ⟨[.signs ['?']], fun m there => ?_, ?_⟩
      · rw [List.mem_singleton.mp there]
        rfl
      · show marksFrom .nothing ((", ".intercalate ["?"]).toList ++ [')']) = _
        decide
    | cons v' values =>
      obtain ⟨ms, inert, read⟩ := ih
      have first : marksFrom .nothing ['?', ','] = some [.signs ['?', ',']] := by decide
      have letters : (", ".intercalate ((v :: v' :: values).map fun _ => "?")).toList ++ [')'] =
          ['?', ','] ++ ' ' ::
            ((", ".intercalate ((v' :: values).map fun _ => "?")).toList ++ [')']) := by
        rw [List.map_cons, List.map_cons, String.intercalate_cons_cons]
        simp
      refine ⟨.signs ['?', ','] :: ms, List.forall_mem_cons.mpr ⟨rfl, inert⟩, ?_⟩
      rw [letters, marksFrom_blank first, read]
      rfl

theorem read?_membership (path : Sql.IsPath column.toList) (point : '.' ∈ column.toList)
    (values : List Value) :
    ∃ ms, read? (column ++ " IN (" ++ ", ".intercalate (values.map fun _ => "?") ++ ")") =
      some [[.atom ms]] := by
  obtain ⟨ms, inert, read⟩ := marksFrom_placeholders values
  generalize ", ".intercalate (values.map fun _ => "?") = marks at read
  have text : column ++ " IN (" ++ marks ++ ")" =
      column ++ " " ++ ("IN" ++ " " ++ ("(" ++ marks ++ ")")) := by
    simp only [String.append_assoc]
    rfl
  have word : marks? "IN" = some [.word ['I', 'N']] := by decide
  have rest : marks? ("(" ++ marks ++ ")") = some (.opening :: (ms ++ [.closing])) := by
    have letters : ("(" ++ marks ++ ")").toList = '(' :: (marks.toList ++ [')']) := by
      simp only [String.toList_append, List.append_assoc]
      rfl
    have opening : Pending.step .nothing '(' = some ([.opening], .nothing) := rfl
    unfold marks?
    rw [letters, marksFrom_cons opening, read]
    rfl
  refine ⟨.word column.toList :: .word ['I', 'N'] :: .opening :: (ms ++ [.closing]), ?_⟩
  unfold read?
  rw [text, marks?_blank (marks?_column path point), marks?_blank word, rest]
  exact sumOf_atom (isAtom_membership column.toList ['I', 'N'] inert)

end Condition

end TableQuery
