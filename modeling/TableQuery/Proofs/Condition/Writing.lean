import TableQuery.Proofs.Condition.Reading

/-!
# Writing conditions

Every expression is what a text is read as: `read?_textOf` reads an expression back from its marks,
with a blank between each two of them. An operand is read in the level that is open, a factor in
brackets in one of its own, and what was read before stays as it is.
-/

namespace TableQuery.Condition

/-! ### Expressions that can be written -/

mutual

/-- Each atom is one operand. -/
def Factor.Proper : Factor → Prop
  | .atom ms => IsAtom ms
  | .not f => f.Proper
  | .group sum => ProperSum sum

def ProperProduct : List Factor → Prop
  | [] => False
  | [f] => f.Proper
  | f :: g :: fs => f.Proper ∧ ProperProduct (g :: fs)

/-- No sum and no product is empty. -/
def ProperSum : List (List Factor) → Prop
  | [] => False
  | [p] => ProperProduct p
  | p :: q :: ps => ProperProduct p ∧ ProperSum (q :: ps)

end

/-! ### Reading marks back -/

theorem negated_not (f : Factor) (n : Nat) : negated (.not f) n = .not (negated f n) := by
  induction n with
  | zero => rfl
  | succ n ih => exact congrArg Factor.not ih

mutual

theorem foldlM_factor (f : Factor) (proper : f.Proper) {l : Level} (missing : l.operand = .missing)
    (outer : List Level) :
    ∃ l', f.marks.foldlM step (l :: outer) = some (l' :: outer) ∧ l'.sums = l.sums ∧
      l'.product = l.product ∧ l'.factor? = some (negated f l.nots) := by
  match f with
  | .atom ms =>
    exact ⟨{ l with operand := .atom ms [] false },
      foldlM_operand (missing ▸ proper : ms.foldlM Operand.step l.operand = _) outer, rfl, rfl, rfl⟩
  | .not f =>
    obtain ⟨l', folded, sums, product, factor⟩ :=
      foldlM_factor f proper (l := { l with nots := l.nots + 1 }) missing outer
    refine ⟨l', ?_, sums, product, ?_⟩
    · rw [Factor.marks, List.foldlM_cons, step_not missing]
      exact folded
    · rw [factor, negated_not]
      rfl
  | .group sum =>
    obtain ⟨l', folded, complete⟩ := foldlM_sum sum proper [] (l :: outer)
    refine ⟨{ l with operand := .group sum }, ?_, rfl, rfl, rfl⟩
    rw [Factor.marks, List.foldlM_cons, step_opening missing]
    show (marksOfSum sum ++ [Mark.closing]).foldlM step ({} :: l :: outer) = _
    rw [List.foldlM_append, folded]
    show (step (l' :: l :: outer) .closing).bind pure = _
    rw [step_closing complete]
    rfl

theorem foldlM_product (p : List Factor) (proper : ProperProduct p) {l : Level}
    (missing : l.operand = .missing) (plain : l.nots = 0) (outer : List Level) :
    ∃ l' f, (marksOfProduct p).foldlM step (l :: outer) = some (l' :: outer) ∧ l'.sums = l.sums ∧
      l'.factor? = some f ∧ l'.product ++ [f] = l.product ++ p := by
  match p with
  | [] => exact proper.elim
  | [f] =>
    obtain ⟨l', folded, sums, product, factor⟩ := foldlM_factor f proper missing outer
    rw [plain] at factor
    exact ⟨l', f, folded, sums, factor, by rw [product]⟩
  | f :: g :: fs =>
    obtain ⟨l₁, folded₁, sums₁, product₁, factor₁⟩ := foldlM_factor f proper.1 missing outer
    rw [plain] at factor₁
    obtain ⟨l', f', folded, sums, factor, product⟩ := foldlM_product (g :: fs) proper.2
      (l := { sums := l₁.sums, product := l₁.product ++ [f] }) rfl rfl outer
    refine ⟨l', f', ?_, sums.trans sums₁, factor, ?_⟩
    · rw [marksOfProduct, List.foldlM_append, folded₁]
      show (Mark.keyword .and :: marksOfProduct (g :: fs)).foldlM step (l₁ :: outer) = _
      rw [List.foldlM_cons, step_and factor₁]
      exact folded
    · rw [product, product₁, List.append_assoc]
      rfl

theorem foldlM_sum (e : List (List Factor)) (proper : ProperSum e) (sums : Expression)
    (outer : List Level) :
    ∃ l', (marksOfSum e).foldlM step ({ sums } :: outer) = some (l' :: outer) ∧
      l'.sum? = some (sums ++ e) := by
  match e with
  | [] => exact proper.elim
  | [p] =>
    obtain ⟨l', f, folded, same, factor, product⟩ :=
      foldlM_product p proper (l := { sums }) rfl rfl outer
    refine ⟨l', folded, ?_⟩
    rw [Level.sum?, factor, Option.map_some, product, same]
    rfl
  | p :: q :: ps =>
    obtain ⟨l₁, f, folded₁, same, factor, product⟩ :=
      foldlM_product p proper.1 (l := { sums }) rfl rfl outer
    obtain ⟨l', folded, complete⟩ := foldlM_sum (q :: ps) proper.2 (sums ++ [p]) outer
    refine ⟨l', ?_, ?_⟩
    · rw [marksOfSum, List.foldlM_append, folded₁]
      show (Mark.keyword .or :: marksOfSum (q :: ps)).foldlM step (l₁ :: outer) = _
      rw [List.foldlM_cons, step_or factor, product, same]
      exact folded
    · rw [complete, List.append_assoc]
      rfl

end

theorem sumOf_marks {e : Expression} (proper : ProperSum e) : sumOf (marksOfSum e) = some e := by
  obtain ⟨l, folded, complete⟩ := foldlM_sum e proper [] []
  unfold sumOf
  rw [folded]
  exact complete

/-! ### Texts -/

def Keyword.text : Keyword → String
  | .and => "AND"
  | .or => "OR"
  | .not => "NOT"
  | .between => "BETWEEN"
  | .case => "CASE"
  | .done => "END"

def Mark.text : Mark → String
  | .opening => "("
  | .closing => ")"
  | .keyword k => k.text
  | .word cs => String.ofList cs
  | .signs cs => String.ofList cs
  | .quoted mark cs => String.ofList (mark :: (cs ++ [mark]))

/-- The text of an expression, with a blank between each two marks. -/
def textOf (e : Expression) : String := " ".intercalate ((marksOfSum e).map Mark.text)

theorem marks?_intercalate {ms : List Mark} (filled : ms ≠ [])
    (written : ∀ m ∈ ms, marks? m.text = some [m]) :
    marks? (" ".intercalate (ms.map Mark.text)) = some ms := by
  induction ms with
  | nil => exact (filled rfl).elim
  | cons m ms ih =>
    have first := written m List.mem_cons_self
    cases ms with
    | nil =>
      rw [List.map_singleton, String.intercalate_singleton]
      exact first
    | cons n ms =>
      have later := ih (List.cons_ne_nil n ms) fun k there =>
        written k (List.mem_cons_of_mem _ there)
      rw [List.map_cons, List.map_cons, String.intercalate_cons_cons, marks?_blank first,
        ← List.map_cons, later]
      rfl

/-- An expression is what its text is read as. -/
theorem read?_textOf {e : Expression} (proper : ProperSum e)
    (written : ∀ m ∈ marksOfSum e, marks? m.text = some [m]) : read? (textOf e) = some e := by
  have summed := sumOf_marks proper
  have filled : marksOfSum e ≠ [] := by
    intro empty
    rw [empty] at summed
    cases summed
  unfold read? textOf
  rw [marks?_intercalate filled written]
  exact summed

end TableQuery.Condition
