import TableQuery.Proofs.Builder.Plain
import TableQuery.Proofs.Builder.Text
import TableQuery.Proofs.Sql.Sentence
import TableQuery.Proofs.Statement.Laid

/-!
# Parts of plain statements

The statements of a plain builder are a head and then suffixes, each from one blank to the next.
`Suffix cs text` says that a text can be put behind any part of a statement, and that the clauses
`cs` are laid out in it. The suffixes of a builder are its joins, its conditions (`scope_suffix`),
its order and its bounds.
-/

namespace TableQuery
open Sql

/-- What follows a part of a statement: nothing, or a blank and then no name. -/
structure Sql.Tail (cs : List Char) : Prop where
  sentence : Sentence false cs
  stop : stopsAt [' '] cs = true

theorem Sql.Tail.nil : Tail [] := ⟨.nil, rfl⟩

/-- A keyword and a blank in front of a name. -/
theorem Sql.Sentence.word {free : Bool} {w cs : List Char} (known : w ∈ keywords)
    (rest : Sentence true cs) : Sentence free (w ++ ' ' :: cs) :=
  .keyword known rfl (.blank rest)

theorem Sql.unmarked_keyword {w : List Char} (known : w ∈ keywords) : '?' ∉ w :=
  (IsPath.name (isName_keyword w known)).unmarked

/-- What may stand behind an item of a list. -/
def itemStops : List Char := [' ', ',', ')']

theorem Sql.Tail.itemStops {cs : List Char} (tail : Tail cs) : stopsAt itemStops cs = true := by
  cases cs with
  | nil => rfl
  | cons c cs =>
    obtain rfl : c = ' ' := by simpa [stopsAt] using tail.stop
    rfl

/-- A text that stands where a name may stand, and behind which no name may follow at once. -/
def Item (text : String) : Prop :=
  ∀ cs, stopsAt itemStops cs = true → Sentence false cs → Sentence true (text.toList ++ cs)

/-- A text from one blank to the next, behind which a name may stand. -/
structure Opens (text : String) : Prop where
  unmarked : '?' ∉ text.toList
  tail : ∀ cs, Sentence true cs → Tail (text.toList ++ cs)

/-- A text that goes on a statement, in which some clauses are laid out. -/
structure Suffix (given : List Clause) (text : String) : Prop where
  laid : Laid given text
  tail : ∀ cs, Tail cs → Tail (text.toList ++ cs)

/-! ### Items -/

theorem Sql.IsPath.item {p : String} (path : IsPath p.toList) : Item p := by
  intro cs stop rest
  refine .path path ?_ rest
  cases cs with
  | nil => rfl
  | cons c cs =>
    have wider : itemStops.all nameStops.contains = true := by decide
    exact List.all_eq_true.mp wider c (List.contains_iff_mem.mp stop)

theorem item_question : Item "?" := fun _ stop rest => .question stop rest.free

theorem item_star : Item "*" := fun _ _ rest => .mark (by decide) rest.free

theorem item_assign {p : String} (path : IsPath p.toList) : Item (p ++ "=?") := by
  intro cs stop rest
  rw [String.toList_append, List.append_assoc]
  exact .path path rfl (.assign (.question stop rest.free))

theorem Item.intercalate {items : List String} (each : ∀ t ∈ items, Item t) :
    Item (", ".intercalate items) := by
  induction items with
  | nil => exact fun _ _ rest => rest.free
  | cons t items ih =>
    have first := each t List.mem_cons_self
    have others := ih fun u member => each u (List.mem_cons_of_mem _ member)
    cases items with
    | nil => simpa using first
    | cons u items =>
      intro cs stop rest
      rw [String.intercalate_cons_cons, String.toList_append, String.toList_append,
        List.append_assoc, List.append_assoc]
      exact first _ rfl (.mark (by decide) (.blank (others cs stop rest)))

/-! ### Suffixes -/

namespace Suffix

theorem empty : Suffix [] "" := ⟨.nil (by decide), fun _ tail => tail⟩

theorem append {cs ds : List Clause} {s t : String} (hs : Suffix cs s) (ht : Suffix ds t) :
    Suffix (cs ++ ds) (s ++ t) := by
  refine ⟨hs.laid.append ht.laid, fun rest tail => ?_⟩
  rw [String.toList_append, List.append_assoc]
  exact hs.tail _ (ht.tail rest tail)

theorem append_none {cs : List Clause} {s t : String} (hs : Suffix cs s) (ht : Suffix [] t) :
    Suffix cs (s ++ t) := by
  have both := hs.append ht
  rwa [List.append_nil] at both

theorem join {parts : List String} (each : ∀ t ∈ parts, Suffix [] t) :
    Suffix [] (String.join parts) := by
  induction parts with
  | nil => exact empty
  | cons t parts ih =>
    rw [String.join_cons]
    exact (each t List.mem_cons_self).append
      (ih fun u member => each u (List.mem_cons_of_mem _ member))

theorem keyword {w : String} (known : w.toList ∈ keywords) : Suffix [] (" " ++ w) := by
  refine ⟨.nil ?_, fun cs tail => ?_⟩
  · simpa using unmarked_keyword known
  · rw [String.toList_append, List.append_assoc]
    show Tail (' ' :: (w.toList ++ cs))
    exact ⟨.blank (.keyword known tail.stop tail.sentence.free), rfl⟩

end Suffix

namespace Opens

theorem keyword {w : String} (known : w.toList ∈ keywords) : Opens (" " ++ w ++ " ") := by
  refine ⟨?_, fun cs rest => ?_⟩
  · simpa using unmarked_keyword known
  · rw [String.toList_append, String.toList_append, List.append_assoc, List.append_assoc]
    exact ⟨.blank (.word known rest), rfl⟩

theorem more {o w : String} (opens : Opens o) (known : w.toList ∈ keywords) :
    Opens (o ++ w ++ " ") := by
  refine ⟨?_, fun cs rest => ?_⟩
  · simpa using ⟨opens.unmarked, unmarked_keyword known⟩
  · rw [String.toList_append, String.toList_append, List.append_assoc, List.append_assoc]
    exact opens.tail _ (.word known rest)

theorem path {o p : String} (opens : Opens o) (path : IsPath p.toList) : Suffix [] (o ++ p) := by
  refine ⟨.nil ?_, fun cs tail => ?_⟩
  · simp [opens.unmarked, path.unmarked]
  · rw [String.toList_append, List.append_assoc]
    exact opens.tail _ (path.item cs tail.itemStops tail.sentence)

theorem digits {o ds : String} (opens : Opens o) (some : ds.toList ≠ [])
    (digits : ∀ d ∈ ds.toList, Text.isAsciiDigit d = true) : Suffix [] (o ++ ds) := by
  refine ⟨.nil ?_, fun cs tail => ?_⟩
  · rw [String.toList_append, List.mem_append]
    rintro (inside | inside)
    · exact opens.unmarked inside
    · exact absurd (digits '?' inside) (by decide)
  · rw [String.toList_append, List.append_assoc]
    refine opens.tail _ ?_
    cases written : ds.toList with
    | nil => exact (some written).elim
    | cons d more => exact .number (written ▸ digits) tail.stop tail.sentence.free

theorem comparator {op : String} (known : op ∈ comparators) : Opens (" " ++ op ++ " ") := by
  have plain : ∀ op ∈ comparators, '?' ∉ (" " ++ op ++ " ").toList ∧
      (op.toList ∈ operators ∨ op.toList ∈ keywords) := by decide
  obtain ⟨unmarked, kind⟩ := plain op known
  refine ⟨unmarked, fun cs rest => ?_⟩
  rw [String.toList_append, String.toList_append, List.append_assoc, List.append_assoc]
  refine ⟨.blank ?_, rfl⟩
  rcases kind with operator | keyword
  · exact .operator operator (.blank rest)
  · exact .word keyword rest

end Opens

/-! ### The suffixes of a builder -/

namespace Builder

theorem joinText_ne_empty (b : Builder) (side : JoinSide)
    (table localField remoteField operator : Value) :
    b.joinText side table localField remoteField operator ≠ "" := by
  simp only [joinText, String.append_assoc]
  exact append_ne_empty (by cases side <;> decide) _

theorem join_suffix {b : Builder} (table : b.table.IsPath) {text : String} (joined : b.IsJoin text) :
    Suffix [] (spaced text) := by
  obtain ⟨side, other, localField, remoteField, operator, path, path', path'', known, rfl⟩ := joined
  have sided : side.keyword.toList ∈ keywords := by cases side <;> decide
  have opens := (Opens.keyword sided).more (w := "JOIN") (by decide)
  have joins := opens.path path.display
  have fields := (Opens.keyword (w := "ON") (by decide)).path (table.display.dotted path'.display)
  have compares := (Opens.comparator known).path (path.display.dotted path''.display)
  have text : spaced (b.joinText side other localField remoteField operator) =
      " " ++ side.keyword ++ " " ++ "JOIN" ++ " " ++ other.display ++
        (" " ++ "ON" ++ " " ++ (b.table.display ++ "." ++ localField.display)) ++
        (" " ++ (operator.orElse (.text "=")).display ++ " " ++
          (other.display ++ "." ++ remoteField.display)) := by
    have join : " JOIN " = " " ++ "JOIN" ++ " " := rfl
    have on : " ON " = " " ++ "ON" ++ " " := rfl
    rw [spaced_of_ne (joinText_ne_empty b side other localField remoteField operator)]
    simp only [joinText, join, on, String.append_assoc]
  rw [text]
  exact (joins.append fields).append compares

theorem and_opens : Opens " AND " := .keyword (w := "AND") (by decide)

theorem condition_suffix {c : Clause} (plain : c.Plain) : Suffix [c] (" AND " ++ c.sql.display) := by
  have laid : Laid [c] (" AND " ++ c.sql.display ++ "") := .cons (by decide) (.nil (by decide))
  rw [String.append_empty] at laid
  refine ⟨laid, fun cs tail => ?_⟩
  cases plain with
  | @comparison column operator value path known =>
    have text : " AND " ++ (comparison column operator value).sql.display =
        " AND " ++ column.display ++ (" " ++ operator ++ " " ++ "?") := by
      simp only [comparison, Value.display_text, String.append_assoc]
      rfl
    -- The blank behind the column keeps it from being read together with the operator.
    have compared := (Opens.comparator known).tail _
      (item_question cs tail.itemStops tail.sentence)
    rw [text, String.toList_append, List.append_assoc]
    refine (and_opens.path path.display).tail _ ?_
    rwa [String.toList_append, List.append_assoc]
  | @membership column values path =>
    have text : " AND " ++ (membership column values).sql.display =
        " AND " ++ column.display ++
          (" IN (" ++ ", ".intercalate (values.map fun _ => "?") ++ ")") := by
      simp only [membership, Value.display_text, String.append_assoc]
    have marks : Item (", ".intercalate (values.map fun _ => "?")) := by
      refine Item.intercalate fun t member => ?_
      obtain ⟨_, _, rfl⟩ := List.mem_map.mp member
      exact item_question
    rw [text, String.toList_append, List.append_assoc]
    refine (and_opens.path path.display).tail _ ?_
    rw [String.toList_append, String.toList_append, List.append_assoc, List.append_assoc]
    refine ⟨?_, rfl⟩
    exact .blank (.word (by decide : "IN".toList ∈ keywords)
      (.mark (by decide) (marks _ rfl (.mark (by decide) tail.sentence.free))))

theorem conditions_suffix {cs : List Clause} (plain : ∀ c ∈ cs, c.Plain) :
    Suffix cs (String.join (cs.map fun c => " AND " ++ c.sql.display)) := by
  induction cs with
  | nil => exact .empty
  | cons c cs ih =>
    rw [List.map_cons, String.join_cons]
    exact (condition_suffix (plain c List.mem_cons_self)).append
      (ih fun d member => plain d (List.mem_cons_of_mem _ member))

theorem where_suffix {b : Builder} (plain : ∀ c ∈ b.conditions, c.Plain) :
    Suffix b.conditions (" " ++ b.whereText) := by
  have text : " " ++ b.whereText =
      " WHERE 1" ++ String.join (b.conditions.map fun c => " AND " ++ c.sql.display) := by
    rw [whereText_join, ← String.append_assoc]
    rfl
  have always : Suffix [] " WHERE 1" := by
    refine ⟨.nil (by decide), fun cs tail => ⟨.blank ?_, rfl⟩⟩
    exact .word (by decide : "WHERE".toList ∈ keywords)
      (.number (d := '1') (List.forall_mem_singleton.mpr rfl) tail.stop tail.sentence.free)
  rw [text]
  exact always.append (conditions_suffix plain)

theorem joins_suffix {b : Builder} (plain : b.Plain) : Suffix [] b.joinsText := by
  refine .join fun t member => ?_
  obtain ⟨text, joined, rfl⟩ := List.mem_map.mp member
  exact join_suffix plain.table (plain.joins text joined)

theorem scope_suffix {b : Builder} (plain : b.Plain) : Suffix b.conditions b.scopeText := by
  rw [scopeText, String.append_assoc]
  exact (joins_suffix plain).append (where_suffix plain.conditions)

theorem order_suffix {b : Builder} (plain : b.Plain) : Suffix [] (spaced b.orderText) := by
  unfold orderText
  split
  · rename_i column direction ordered
    have path := (plain.order column direction ordered).display
    have directed : direction.keyword.toList ∈ keywords := by cases direction <;> decide
    have opens := (Opens.keyword (w := "ORDER") (by decide)).more (w := "BY") (by decide)
    have text : spaced ("ORDER BY " ++ column.display ++ " " ++ direction.keyword) =
        " ORDER BY " ++ column.display ++ (" " ++ direction.keyword) := by
      simp only [String.append_assoc]
      rw [spaced_of_ne (append_ne_empty (by decide) _), ← String.append_assoc]
      rfl
    rw [text]
    exact (opens.path path).append (.keyword directed)
  · exact .empty

theorem isAsciiDigit_decimal (n : Nat) :
    ∀ d ∈ (Text.decimal n).toList, Text.isAsciiDigit d = true := by
  intro d member
  rw [Text.decimal, String.toList_ofList] at member
  have digit := Nat.isDigit_of_mem_toDigits (by decide) (by decide) member
  simp only [Char.isDigit, Bool.and_eq_true, decide_eq_true_eq] at digit
  have low : 48 ≤ d.toNat := digit.1
  have high : d.toNat ≤ 57 := digit.2
  simp [Text.isAsciiDigit, low, high]

theorem decimal_ne_nil (n : Nat) : (Text.decimal n).toList ≠ [] := by
  rw [Text.decimal, String.toList_ofList]
  exact Nat.toDigits_ne_nil

theorem bound_suffix {keyword text : String} {bound : Option Nat}
    (known : keyword = "LIMIT" ∨ keyword = "OFFSET") (written : boundText keyword bound = .ok text) :
    Suffix [] (spaced text) := by
  cases bound with
  | none =>
    cases written
    exact .empty
  | some n =>
    have opens : Opens (" " ++ keyword ++ " ") :=
      .keyword (by rcases known with rfl | rfl <;> decide)
    obtain ⟨-, written⟩ := boundText_eq_ok.mp written
    rw [Option.elim_some] at written
    have filled : keyword ++ " " ++ Text.decimal n ≠ "" := by
      rw [String.append_assoc]
      exact append_ne_empty (by rcases known with rfl | rfl <;> decide) _
    rw [written, spaced_of_ne filled, ← String.append_assoc, ← String.append_assoc]
    exact opens.digits (decimal_ne_nil n) (isAsciiDigit_decimal n)

end Builder

end TableQuery
