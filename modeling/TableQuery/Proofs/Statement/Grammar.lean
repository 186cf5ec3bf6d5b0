import TableQuery.Proofs.Builder.Tail

/-!
# The grammar of selections

`Selection` derives the selections that a server accepts: columns and a table, joins, conditions
behind one that is always true, an order and bounds, where an offset stands only behind a limit. What
stands before the bounds is a `Body`. `Body.ends` says how a body can end, so that a text with an
offset behind a body and no limit is no selection (`not_selection_offset`).
-/

namespace TableQuery.Grammar
open Sql

/-- What is selected: everything, or some columns. -/
inductive Columns : String → Prop where
  | all : Columns "*"
  | named {columns : List String} (some : columns ≠ [])
      (paths : ∀ c ∈ columns, IsPath c.toList) : Columns (", ".intercalate columns)

inductive Join : String → Prop where
  | on (side : JoinSide) {table column operator other : String} (joined : IsPath table.toList)
      (path : IsPath column.toList) (known : operator ∈ comparators) (path' : IsPath other.toList) :
      Join (side.keyword ++ " JOIN " ++ table ++ " ON " ++ column ++ " " ++ operator ++ " " ++ other)

inductive Condition : String → Prop where
  | comparison {column operator : String} (path : IsPath column.toList)
      (known : operator ∈ comparators) : Condition (column ++ " " ++ operator ++ " ?")
  | membership {column : String} (path : IsPath column.toList) (more : Nat) :
      Condition (column ++ " IN (" ++ ", ".intercalate (List.replicate (more + 1) "?") ++ ")")

inductive Order : String → Prop where
  | none : Order ""
  | sorted {column : String} (path : IsPath column.toList) (direction : Direction) :
      Order (" ORDER BY " ++ column ++ " " ++ direction.keyword)

inductive Bounds : String → Prop where
  | none : Bounds ""
  | limit {limit : String} {n : Nat} (number : Numeral limit n) : Bounds (" LIMIT " ++ limit)
  | offset {limit offset : String} {n m : Nat} (number : Numeral limit n)
      (number' : Numeral offset m) : Bounds (" LIMIT " ++ limit ++ " OFFSET " ++ offset)

/-- A selection up to its order. -/
inductive Body : String → Prop where
  | select {columns table order : String} {joins conditions : List String}
      (listed : Columns columns) (source : IsPath table.toList) (joined : ∀ t ∈ joins, Join t)
      (tested : ∀ t ∈ conditions, Condition t) (ordered : Order order) :
      Body ("SELECT " ++ columns ++ " FROM " ++ table ++ String.join (joins.map (" " ++ ·)) ++
        " WHERE 1" ++ String.join (conditions.map (" AND " ++ ·)) ++ order)

inductive Selection : String → Prop where
  | bounded {body bounds : String} (derived : Body body) (bounded : Bounds bounds) :
      Selection (body ++ bounds)

/-! ### Last words -/

/-- Texts that are equal have the same last word. -/
theorem last_word {front front' word word' : List Char} (whole : ' ' ∉ word) (whole' : ' ' ∉ word')
    (same : front ++ ' ' :: word = front' ++ ' ' :: word') : front = front' ∧ word = word' := by
  rcases List.append_eq_append_iff.mp same with ⟨more, rfl, rest⟩ | ⟨more, rfl, rest⟩
  · cases more with
    | nil => exact ⟨(List.append_nil _).symm, (List.cons.inj rest).2⟩
    | cons c more =>
      refine (whole ?_).elim
      rw [(List.cons.inj rest).2]
      simp
  · cases more with
    | nil => exact ⟨List.append_nil _, (List.cons.inj rest).2.symm⟩
    | cons c more =>
      refine (whole' ?_).elim
      rw [(List.cons.inj rest).2]
      simp

theorem numeral_whole {text : String} {n : Nat} (number : Numeral text n) : ' ' ∉ text.toList :=
  fun blank => absurd (number.digits ' ' blank) (by decide)

/-- A text that ends with a numeral ends with a digit. -/
theorem numeral_last {text : String} {n : Nat} (number : Numeral text n) {front front' : List Char}
    {c : Char} (same : front' ++ [c] = front ++ text.toList) : Text.isAsciiDigit c = true := by
  have last := congrArg List.getLast? same
  rw [List.getLast?_concat, List.getLast?_append_of_ne_nil _ number.filled] at last
  exact number.digits c (List.mem_of_getLast? last.symm)

theorem Condition.last {text : String} (condition : Condition text) :
    ∃ front c, text.toList = front ++ [c] ∧ Text.isAsciiDigit c = false := by
  cases condition with
  | @comparison column operator path known =>
    refine ⟨(column ++ " " ++ operator ++ " ").toList, '?', ?_, rfl⟩
    simp [String.toList_append]
  | @membership column path more =>
    refine ⟨(column ++ " IN (" ++ ", ".intercalate (List.replicate (more + 1) "?")).toList, ')', ?_,
      rfl⟩
    simp [String.toList_append]

theorem Order.last {text : String} (order : Order text) (given : text ≠ "") :
    ∃ front c, text.toList = front ++ [c] ∧ Text.isAsciiDigit c = false := by
  cases order with
  | none => exact (given rfl).elim
  | @sorted column path direction =>
    refine ⟨(" ORDER BY " ++ column ++ " ").toList ++ direction.keyword.toList.dropLast, 'C', ?_, rfl⟩
    cases direction <;> simp [Direction.keyword, String.toList_append]

/-- A body ends with the condition that is always true, or with no digit. -/
theorem Body.last {body : String} (derived : Body body) :
    (∃ front : String, body = front ++ " WHERE 1") ∨
      ∃ front c, body.toList = front ++ [c] ∧ Text.isAsciiDigit c = false := by
  cases derived with
  | @select columns table order joins conditions listed source joined tested ordered =>
    generalize "SELECT " ++ columns ++ " FROM " ++ table ++ String.join (joins.map (" " ++ ·)) = stem
    by_cases unordered : order = ""
    · subst unordered
      rcases List.eq_nil_or_concat conditions with rfl | ⟨init, t, rfl⟩
      · exact .inl ⟨stem, by simp⟩
      · obtain ⟨front, c, split, other⟩ := (tested t (by simp)).last
        refine .inr ⟨(stem ++ " WHERE 1" ++ String.join (init.map (" AND " ++ ·)) ++ " AND ").toList ++
          front, c, ?_, other⟩
        simp [String.toList_append, split]
    · obtain ⟨front, c, split, other⟩ := ordered.last unordered
      refine .inr ⟨(stem ++ " WHERE 1" ++ String.join (conditions.map (" AND " ++ ·))).toList ++
        front, c, ?_, other⟩
      rw [String.toList_append, split, List.append_assoc]

/-- The only word before a numeral at the end of a body is `WHERE`. -/
theorem Body.ends {body digits : String} (derived : Body body) {front word : List Char} {n : Nat}
    (whole : ' ' ∉ word) (number : Numeral digits n)
    (same : body.toList = front ++ ' ' :: word ++ ' ' :: digits.toList) : word = "WHERE".toList := by
  rcases derived.last with ⟨front', rfl⟩ | ⟨front', c, split, other⟩
  · have split : (front' ++ " WHERE 1").toList =
        (front'.toList ++ ' ' :: "WHERE".toList) ++ ' ' :: ['1'] := by
      simp [String.toList_append]
    obtain ⟨before, -⟩ := last_word (by decide) (numeral_whole number) (split.symm.trans same)
    exact (last_word (by decide) whole before).2.symm
  · have digit : Text.isAsciiDigit c = true := by
      have last : front' ++ [c] = front ++ ' ' :: word ++ [' '] ++ digits.toList :=
        split.symm.trans (by simp [same])
      exact numeral_last number last
    rw [other] at digit
    cases digit

/-- A text with an offset behind what stands before the bounds is no selection. -/
theorem not_selection_offset {body digits : String} (derived : Body body) {n : Nat}
    (number : Numeral digits n) : ¬ Selection (body ++ " OFFSET " ++ digits) := by
  intro selection
  generalize same : body ++ " OFFSET " ++ digits = text at selection
  have letters : text.toList = body.toList ++ ' ' :: "OFFSET".toList ++ ' ' :: digits.toList := by
    simp [← same, String.toList_append]
  have whole := numeral_whole number
  cases selection with
  | @bounded body' bounds derived' bounded =>
    cases bounded with
    | none =>
      rw [String.append_empty] at letters
      exact absurd (derived'.ends (by decide) number letters) (by decide)
    | @limit limit m number' =>
      have split : (body' ++ (" LIMIT " ++ limit)).toList =
          body'.toList ++ ' ' :: "LIMIT".toList ++ ' ' :: limit.toList := by
        simp [String.toList_append]
      obtain ⟨before, -⟩ := last_word (numeral_whole number') whole (split.symm.trans letters)
      exact absurd (last_word (by decide) (by decide) before).2 (by decide)
    | @offset limit offset m k number' number'' =>
      have split : (body' ++ (" LIMIT " ++ limit ++ " OFFSET " ++ offset)).toList =
          body'.toList ++ ' ' :: "LIMIT".toList ++ ' ' :: limit.toList ++ ' ' :: "OFFSET".toList ++
            ' ' :: offset.toList := by
        simp [String.toList_append]
      -- Before the offset the one text has a limit and the other its body.
      obtain ⟨before, -⟩ := last_word (numeral_whole number'') whole (split.symm.trans letters)
      obtain ⟨before, -⟩ := last_word (by decide) (by decide) before
      exact absurd (derived.ends (by decide) number' before.symm) (by decide)

end TableQuery.Grammar
