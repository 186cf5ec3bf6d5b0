import TableQuery.Proofs.Builder.Suffix

/-!
# The end of a selection

Behind its conditions a selection says in which order the rows come and which of them are meant.
`compileSelect_tail` shows that nothing else stands there: keywords, the column that was stored, and
digits.
-/

namespace TableQuery

/-- A text of decimal digits that writes a number. -/
structure Numeral (text : String) (n : Nat) : Prop where
  filled : text.toList ≠ []
  digits : ∀ d ∈ text.toList, Text.isAsciiDigit d = true
  value : Nat.ofDigitChars 10 text.toList 0 = n

namespace Builder

theorem numeral_decimal (n : Nat) : Numeral (Text.decimal n) n := by
  refine ⟨decimal_ne_nil n, isAsciiDigit_decimal n, ?_⟩
  rw [Text.decimal, String.toList_ofList]
  exact Nat.ofDigitChars_toDigits (by decide) (by decide)

/-- What stands for an order behind the conditions. -/
def OrderTail (order : Option (Value × Direction)) (text : String) : Prop :=
  match order with
  | none => text = ""
  | some (column, direction) =>
    text = " ORDER BY " ++ column.display ++ " " ++ direction.keyword

/-- What stands for a bound behind the conditions. -/
def BoundTail (keyword : String) (bound : Option Nat) (text : String) : Prop :=
  match bound with
  | none => text = ""
  | some n => ∃ digits, Numeral digits n ∧ text = " " ++ keyword ++ " " ++ digits

/-- A selection that ends with what its order and its bounds stand for. -/
def Ends (b : Builder) (sql : String) : Prop :=
  ∃ names order limit offset,
    sql = "SELECT " ++ ", ".intercalate names ++ " FROM " ++ b.table.display ++ b.joinsText ++ " " ++
      b.whereText ++ order ++ limit ++ offset ∧
    OrderTail b.order order ∧ BoundTail "LIMIT" b.limit limit ∧ BoundTail "OFFSET" b.offset offset

theorem orderTail_orderText (b : Builder) : OrderTail b.order (spaced b.orderText) := by
  unfold OrderTail orderText
  cases b.order with
  | none => rfl
  | some o =>
    obtain ⟨column, direction⟩ := o
    dsimp only
    simp only [String.append_assoc]
    rw [spaced_of_ne (append_ne_empty (by decide) _), ← String.append_assoc]
    rfl

theorem boundTail_boundText {keyword text : String} {bound : Option Nat} (word : keyword ≠ "")
    (written : boundText keyword bound = .ok text) : BoundTail keyword bound (spaced text) := by
  obtain ⟨-, rfl⟩ := boundText_eq_ok.mp written
  cases bound with
  | none => rfl
  | some n =>
    refine ⟨Text.decimal n, numeral_decimal n, ?_⟩
    rw [Option.elim_some, String.append_assoc, spaced_of_ne (append_ne_empty word _)]
    simp only [String.append_assoc]

theorem compileSelect_tail {b : Builder} {fields : Value} {s : Statement}
    (compiled : b.compileSelect fields = .ok s) : b.Ends s.sql := by
  obtain ⟨-, -, -, limit, offset, columns, names, limited, shifted, -, -, rfl⟩ :=
    compileSelect_eq_ok.mp compiled
  refine ⟨names, spaced b.orderText, spaced limit, spaced offset, ?_, b.orderTail_orderText,
    boundTail_boundText (by decide) limited, boundTail_boundText (by decide) shifted⟩
  delta selectText scopeText
  simp only [String.append_assoc]

/-- A builder that is valid compiles into a selection unless a bound or what it writes as it was given
has too many digits, or what is to be selected is no list of texts. -/
theorem compileSelect_returns {b : Builder} {fields : Value} :
    (∃ s, b.compileSelect fields = .ok s) ↔
      b.isValid = true ∧ (∀ n, b.limit = some n ∨ b.offset = some n → n < 10 ^ Text.digitLimit) ∧
        b.ScopeFits ∧ b.OrderFits ∧
          ∃ columns names, b.columns fields = .ok columns ∧ columns.mapM Value.text? = .ok names := by
  have valid : b.isValid = true ↔ b.misuse = none := Option.isNone_iff_eq_none
  rw [valid]
  constructor
  · rintro ⟨s, compiled⟩
    obtain ⟨unspoilt, scope, order, limit, offset, columns, names, limited, shifted, chosen, named,
      -⟩ := compileSelect_eq_ok.mp compiled
    obtain ⟨limit_fits, -⟩ := boundText_eq_ok.mp limited
    obtain ⟨offset_fits, -⟩ := boundText_eq_ok.mp shifted
    exact ⟨unspoilt, fun n bound => bound.elim (limit_fits n) (offset_fits n), scope, order, columns,
      names, chosen, named⟩
  · rintro ⟨unspoilt, fits, scope, order, columns, names, chosen, named⟩
    exact ⟨_, compileSelect_eq_ok.mpr ⟨unspoilt, scope, order, _, _, columns, names,
      boundText_eq_ok.mpr ⟨fun n bound => fits n (.inl bound), rfl⟩,
      boundText_eq_ok.mpr ⟨fun n bound => fits n (.inr bound), rfl⟩, chosen, named, rfl⟩⟩

end Builder

end TableQuery
