import TableQuery.Proofs.Builder.Text
import TableQuery.Proofs.Placeholder.Percent
import TableQuery.Proofs.Sql.Quotation
import TableQuery.Proofs.Sql.Sentence

/-!
# Quotations between placeholders

A selection of bare question marks and of quotations, whatever texts these hold. `spans_selected` is
the main statement: the placeholders of such a statement are its bare question marks, and in percent
form the quotations are as they were, with every percent sign doubled.
-/

namespace TableQuery.Placeholder
open Sql

/-- What is selected: a bare question mark, or a text between quotation marks. -/
inductive Item where
  | question
  | quotation (q : Quotation) (s : String)

namespace Item

def text : Item → String
  | question => "?"
  | quotation q s => String.ofList (q.quote s.toList)

def inPercentForm : Item → String
  | question => "%s"
  | quotation q s => String.ofList (doublePercent (q.quote s.toList))

/-- The places of the bare question marks, if the first item begins at `pos` and a comma and a blank
stand between two items. -/
def questions (pos : Nat) : List Item → List Nat
  | [] => []
  | item :: items =>
    let later := questions (pos + item.text.length + 2) items
    match item with
    | question => pos :: later
    | quotation .. => later

/-- What stands for some items behind another. -/
def behind (f : Item → String) (items : List Item) : List Char :=
  items.flatMap fun item => [',', ' '] ++ (f item).toList

theorem behind_cons (f : Item → String) (item : Item) (items : List Item) :
    behind f (item :: items) = [',', ' '] ++ ((f item).toList ++ behind f items) := by
  simp [behind]

theorem toList_intercalate (f : Item → String) (item : Item) (items : List Item) :
    (", ".intercalate ((item :: items).map f)).toList = (f item).toList ++ behind f items := by
  rw [List.map_cons, Builder.intercalate_cons, String.toList_append, String.toList_join,
    List.flatMap_map, List.flatMap_map]
  simp only [String.toList_append]
  rfl

theorem head?_behind (f : Item → String) (items : List Item) {mark : Char} (other : mark ≠ ',') :
    (behind f items).head? ≠ some mark := by
  cases items with
  | nil => nofun
  | cons item items => exact fun same => other (Option.some.inj same).symm

theorem stopsAt_behind (f : Item → String) (items : List Item) :
    stopsAt [' ', ',', ')'] (behind f items) = true := by
  cases items <;> rfl

/-! ### Places -/

theorem reads_item {item : Item} {items : List Item} {prev : Option TokenKind} {pos : Nat}
    (later : ∀ kind, Reads (some kind) (pos + item.text.length) (behind text items)
      (questions (pos + item.text.length + 2) items)) :
    Reads prev pos (item.text.toList ++ behind text items) (questions pos (item :: items)) := by
  cases item with
  | question =>
    have lexed : lexeme prev pos '?' ([] ++ behind text items) = .ok ⟨some .placeholder, 0⟩ :=
      lexeme_question (stopsAt_behind text items)
    exact reads_token (by decide) lexed nofun (later .placeholder)
  | quotation q s =>
    have visible : Text.isBlank q.mark = false := by cases q <;> rfl
    have stop : (behind text items).head? ≠ some q.mark :=
      head?_behind text items (by cases q <;> decide)
    have letters : (quotation q s).text.toList = q.mark :: (q.escaped s.toList ++ [q.mark]) :=
      String.toList_ofList
    have size : (quotation q s).text.length = 1 + (q.escaped s.toList ++ [q.mark]).length := by
      rw [← String.length_toList, letters, List.length_cons, Nat.add_comm]
    have lexed : lexeme prev pos q.mark (q.escaped s.toList ++ [q.mark] ++ behind text items) =
        .ok ⟨some .other, (q.escaped s.toList ++ [q.mark]).length⟩ := by
      rw [List.append_assoc, List.length_append]
      exact lexeme_quotation s.toList stop
    have read := later .other
    rw [size, ← Nat.add_assoc] at read
    show Reads prev pos _ (questions (pos + (quotation q s).text.length + 2) items)
    rw [letters, size, ← Nat.add_assoc]
    exact reads_token visible lexed nofun read

theorem reads_behind (items : List Item) (prev : Option TokenKind) (pos : Nat) :
    Reads prev pos (behind text items) (questions (pos + 2) items) := by
  induction items generalizing prev pos with
  | nil => exact ⟨[], rfl, rfl⟩
  | cons item items ih =>
    rw [behind_cons]
    exact @reads_token _ .other _ _ [] _ _ (by decide) (lexeme_mark _ (by decide)) nofun
      (reads_blank (reads_item fun kind => ih (some kind) _))

/-! ### Percent form -/

theorem le_of_mem_questions {items : List Item} {pos p : Nat} (member : p ∈ questions pos items) :
    pos ≤ p := by
  induction items generalizing pos with
  | nil => cases member
  | cons item items ih =>
    have later (member : p ∈ questions (pos + item.text.length + 2) items) : pos ≤ p := by
      have bound := ih member
      omega
    cases item with
    | question =>
      rcases List.mem_cons.mp member with rfl | member
      · exact Nat.le_refl p
      · exact later member
    | quotation q s => exact later member

theorem percent_item {item : Item} {items : List Item} {pos : Nat}
    (later : ∀ pos, percent pos (behind text items) (questions (pos + 2) items) =
      behind inPercentForm items) :
    percent pos (item.text.toList ++ behind text items) (questions pos (item :: items)) =
      item.inPercentForm.toList ++ behind inPercentForm items := by
  cases item with
  | question =>
    show percent pos ('?' :: behind text items) (pos :: questions (pos + 1 + 2) items) = _
    rw [percent_mark, later]
    rfl
  | quotation q s =>
    have after : ∀ p ∈ questions (pos + (quotation q s).text.length + 2) items,
        pos + (quotation q s).text.toList.length ≤ p := by
      intro p member
      have bound := le_of_mem_questions member
      rw [String.length_toList]
      omega
    show percent pos _ (questions (pos + (quotation q s).text.length + 2) items) = _
    rw [percent_append _ _ after, String.length_toList, later]
    simp [text, inPercentForm]

theorem percent_behind (items : List Item) (pos : Nat) :
    percent pos (behind text items) (questions (pos + 2) items) = behind inPercentForm items := by
  induction items generalizing pos with
  | nil => rfl
  | cons item items ih =>
    have after : ∀ p ∈ questions (pos + 2) (item :: items), pos + [',', ' '].length ≤ p :=
      fun p member => le_of_mem_questions member
    rw [behind_cons, behind_cons]
    rw [percent_append _ _ after]
    exact congrArg _ (percent_item ih)

end Item

def selected (items : List Item) : String := "SELECT " ++ ", ".intercalate (items.map Item.text)

theorem places_selected (items : List Item) :
    places (selected items) = .ok (Item.questions 7 items) := by
  let listing := (", ".intercalate (items.map Item.text)).toList
  have listed : Reads (some .other) 7 listing (Item.questions 7 items) := by
    dsimp only [listing]
    cases items with
    | nil => exact ⟨[], rfl, rfl⟩
    | cons item items =>
      rw [Item.toList_intercalate]
      exact Item.reads_item fun kind => Item.reads_behind items (some kind) _
  have named : isName ('S' :: "ELECT".toList) = true := by decide
  have keyword : 'S' :: "ELECT".toList ∈ keywords := by decide
  have stop : stopsAt nameStops (' ' :: listing) = true := rfl
  have unlocked := lockLength?_name (isName_all named) stop fun locks =>
    absurd locks (toUpper_keyword _ keyword).1
  have lexed : lexeme none 0 'S' ("ELECT".toList ++ ' ' :: listing) = .ok _ :=
    lexeme_name named stop unlocked
  rw [wordKind_keyword keyword none] at lexed
  have letters : (selected items).toList = 'S' :: "ELECT".toList ++ ' ' :: listing := by
    rw [selected, String.toList_append]
    rfl
  obtain ⟨ts, read, found⟩ : Reads none 0 (selected items).toList (Item.questions 7 items) := by
    rw [letters]
    exact reads_token (by decide) lexed nofun (reads_blank listed)
  simp only [places, tokens, read, found]

theorem percent_selected (items : List Item) :
    percent 0 (selected items).toList (Item.questions 7 items) =
      ("SELECT " ++ ", ".intercalate (items.map Item.inPercentForm)).toList := by
  have after : ∀ p ∈ Item.questions 7 items, 0 + "SELECT ".toList.length ≤ p := fun p member =>
    Item.le_of_mem_questions member
  rw [selected, String.toList_append, String.toList_append, percent_append _ _ after]
  have head : doublePercent "SELECT ".toList = "SELECT ".toList := by decide
  rw [head]
  congr 1
  cases items with
  | nil => rfl
  | cons item items =>
    rw [Item.toList_intercalate, Item.toList_intercalate]
    exact Item.percent_item (Item.percent_behind items)

/-- The placeholders of a selection are its bare question marks, whatever its quotations hold, and
these keep everything but their single percent signs in percent form. -/
theorem spans_selected (items : List Item) :
    spans (selected items) = .ok ((Item.questions 7 items).map span) ∧
      toPercent (selected items) =
        .ok ("SELECT " ++ ", ".intercalate (items.map Item.inPercentForm)) := by
  refine ⟨?_, ?_⟩
  · rw [spans, places_selected]
    rfl
  · rw [toPercent_eq, places_selected]
    refine congrArg Except.ok (String.toList_inj.mp ?_)
    rw [String.toList_ofList]
    exact percent_selected items

example :
    let items : List Item :=
      [.quotation .apostrophes "it's ?\x5c", .question, .quotation .backquotes "%"]
    selected items = "SELECT 'it''s ?\x5c\x5c', ?, `%`" ∧ Item.questions 7 items = [20] := by decide

end TableQuery.Placeholder
