import TableQuery.Proofs.Placeholder.Lawful

/-!
# Percent form

`toPercent` writes a statement in percent form and `format` undoes it. `fill` is what the two come
to together: the statement with a text in the place of each placeholder and all other characters
as they are. `format_toPercent` is the main statement: formatting succeeds for as many texts as
there are placeholders, and then gives `fill`. It needs no more of a tokenizer than its laws.
-/

namespace TableQuery.Placeholder
open Sql (Tokenizer tokens_lawful)

/-- The characters of a text from `pos` on, with the next of some texts for each place. -/
def fillFrom (pos : Nat) (texts : List (List Char)) (ps : List Nat) (cs : List Char) : List Char :=
  (cs.zipIdx pos).flatMap fun c =>
    match ps.idxOf? c.2 with
    | some i => texts.getD i []
    | none => [c.1]

/-- A text with one of some texts in each of its places: the first in the first, and so on. -/
def fill (texts : List (List Char)) (ps : List Nat) (cs : List Char) : List Char :=
  fillFrom 0 texts ps cs

def percent (pos : Nat) (cs : List Char) (ps : List Nat) : List Char :=
  ['%', 's'].intercalate ((pieces pos cs ps).map doublePercent)

theorem toPercent_eq (sql : String) (tokenize : Tokenizer) :
    toPercent sql tokenize =
      (places sql tokenize).map fun ps => String.ofList (percent 0 sql.toList ps) := by
  unfold toPercent
  cases places sql tokenize <;> rfl

/-! ### One character at a time -/

theorem fillFrom_skip {pos : Nat} {ps : List Nat} (out : pos ∉ ps) (texts : List (List Char))
    (c : Char) (cs : List Char) :
    fillFrom pos texts ps (c :: cs) = c :: fillFrom (pos + 1) texts ps cs := by
  have absent : ps.idxOf? pos = none := List.idxOf?_eq_none_iff.mpr out
  simp only [fillFrom, List.zipIdx_cons, List.flatMap_cons, absent, List.singleton_append]

theorem fillFrom_mark (pos : Nat) (t : List Char) (texts : List (List Char)) (ps : List Nat)
    (c : Char) (cs : List Char) :
    fillFrom pos (t :: texts) (pos :: ps) (c :: cs) = t ++ fillFrom (pos + 1) texts ps cs := by
  have first : (pos :: ps).idxOf? pos = some 0 := by simp [List.idxOf?_cons]
  have later : ∀ d ∈ cs.zipIdx (pos + 1), (pos :: ps).idxOf? d.2 = (ps.idxOf? d.2).map (· + 1) := by
    intro d member
    have after := List.le_snd_of_mem_zipIdx member
    have other : (pos == d.2) = false := by
      rw [beq_eq_false_iff_ne]
      omega
    rw [List.idxOf?_cons, other]
    rfl
  simp only [fillFrom, List.zipIdx_cons, List.flatMap_cons, first, List.getD_cons_zero]
  simp only [List.flatMap_def]
  congr 2
  refine List.map_congr_left fun d member => ?_
  rw [later d member]
  cases ps.idxOf? d.2 <;> rfl

theorem pieces_ne_nil (pos : Nat) (cs : List Char) (ps : List Nat) : pieces pos cs ps ≠ [] := by
  cases ps <;> simp [pieces]

theorem pieces_skip {pos : Nat} {ps : List Nat} (after : ∀ p ∈ ps, pos + 1 ≤ p) (c : Char)
    (cs : List Char) :
    ∃ first rest, pieces (pos + 1) cs ps = first :: rest ∧
      pieces pos (c :: cs) ps = (c :: first) :: rest := by
  cases ps with
  | nil => exact ⟨cs, [], rfl, rfl⟩
  | cons p ps =>
    have bound : pos + 1 ≤ p := after p List.mem_cons_self
    have taken : p - pos = (p - (pos + 1)) + 1 := by omega
    have dropped : p + 1 - pos = (p + 1 - (pos + 1)) + 1 := by omega
    refine ⟨_, _, rfl, ?_⟩
    rw [pieces, taken, dropped, List.take_succ_cons, List.drop_succ_cons]

theorem percent_skip {pos : Nat} {cs : List Char} {ps : List Nat} (after : ∀ p ∈ ps, pos + 1 ≤ p)
    (c : Char) : percent pos (c :: cs) ps = doublePercent [c] ++ percent (pos + 1) cs ps := by
  obtain ⟨first, rest, cut, cut'⟩ := pieces_skip after c cs
  have doubled : doublePercent (c :: first) = doublePercent [c] ++ doublePercent first := by
    simp [doublePercent]
  unfold percent
  rw [cut, cut', List.map_cons, List.map_cons, doubled]
  cases rest with
  | nil => simp
  | cons next rest => simp

/-- In front of all places, percent signs are doubled. -/
theorem percent_append {pos : Nat} {ps : List Nat} (ws cs : List Char)
    (after : ∀ p ∈ ps, pos + ws.length ≤ p) :
    percent pos (ws ++ cs) ps = doublePercent ws ++ percent (pos + ws.length) cs ps := by
  induction ws generalizing pos with
  | nil => rfl
  | cons c ws ih =>
    have size : pos + (c :: ws).length = pos + 1 + ws.length := by
      rw [List.length_cons, Nat.add_comm ws.length, Nat.add_assoc]
    rw [size] at after ⊢
    have doubled : doublePercent (c :: ws) = doublePercent [c] ++ doublePercent ws := by
      simp [doublePercent]
    rw [List.cons_append, percent_skip fun p member => Nat.le_of_add_right_le (after p member),
      ih after, doubled, List.append_assoc]

theorem percent_mark (pos : Nat) (c : Char) (cs : List Char) (ps : List Nat) :
    percent pos (c :: cs) (pos :: ps) = '%' :: 's' :: percent (pos + 1) cs ps := by
  have cut : pieces pos (c :: cs) (pos :: ps) = [] :: pieces (pos + 1) cs ps := by
    simp [pieces]
  have others : (pieces (pos + 1) cs ps).map doublePercent ≠ [] := by
    simp [pieces_ne_nil]
  unfold percent
  rw [cut, List.map_cons, List.intercalate_cons_of_ne_nil others]
  rfl

/-- Formatting reads a character back from its percent form and goes on behind it. -/
theorem format_doublePercent (c : Char) (rest : List Char) (texts : List (List Char)) :
    format (doublePercent [c] ++ rest) texts = (format rest texts).map (c :: ·) := by
  by_cases h : c = '%'
  · subst h
    simp [doublePercent, format]
  · have other : (c == '%') = false := beq_eq_false_iff_ne.mpr h
    have kept : doublePercent [c] ++ rest = c :: rest := by simp [doublePercent, h]
    rw [kept, format.eq_def]
    simp only [other, Bool.false_eq_true, if_false]

/-! ### Formatting undoes the percent form -/

theorem format_percent {pos : Nat} {cs : List Char} {ps : List Nat} (marked : Marked pos cs ps)
    (texts : List (List Char)) :
    format (percent pos cs ps) texts =
      if ps.length = texts.length then some (fillFrom pos texts ps cs) else none := by
  -- Formatting goes through the percent form as the places go through the text, and takes one of
  -- the texts at each place.
  induction marked generalizing texts with
  | nil pos =>
    cases texts with
    | nil => rfl
    | cons t texts => rfl
  | @skip pos cs ps c rest ih =>
    have after : ∀ p ∈ ps, pos + 1 ≤ p := fun p member => rest.le_of_mem member
    have out : pos ∉ ps := fun member => absurd (after pos member) (by omega)
    rw [percent_skip after, format_doublePercent, ih, fillFrom_skip out]
    split <;> rfl
  | @mark pos cs ps rest ih =>
    rw [percent_mark]
    cases texts with
    | nil => rfl
    | cons t texts =>
      have read : format ('%' :: 's' :: percent (pos + 1) cs ps) (t :: texts) =
          (format (percent (pos + 1) cs ps) texts).map (t ++ ·) := by
        simp [format]
      rw [read, ih, fillFrom_mark, List.length_cons, List.length_cons]
      by_cases same : ps.length = texts.length
      · rw [if_pos same, if_pos (congrArg (· + 1) same)]
        rfl
      · rw [if_neg same, if_neg (by omega)]
        rfl

section Tokenizers

variable {tokenize : Tokenizer} {sql : String} {sp : List (Nat × Nat)}

theorem spans_eq_ok (h : spans sql tokenize = .ok sp) :
    ∃ ps, places sql tokenize = .ok ps ∧ sp = ps.map span := by
  obtain ⟨ps, read, rfl⟩ := map_eq_ok.mp h
  exact ⟨ps, read, rfl⟩

theorem align_list (h : spans sql tokenize = .ok sp) (vs : List Value) :
    (∃ n, align sql (.list vs) tokenize = .ok n) ↔ sp.length = vs.length := by
  have size : (Value.list vs).size? = .ok vs.length := rfl
  simp only [align, h, size, ok_bind]
  by_cases same : sp.length = vs.length
  · simp [same]
  · simp [same]

/-- What a lawful tokenizer makes of a statement is formatted with as many texts as there are
placeholders. -/
theorem format_of_lawful (lawful : tokenize.Lawful) (h : spans sql tokenize = .ok sp)
    (texts : List String) :
    ∃ converted, toPercent sql tokenize = .ok converted ∧
      ((∃ out, format converted.toList (texts.map String.toList) = some out) ↔
        ∃ n, align sql (.list (texts.map .text)) tokenize = .ok n) ∧
      ∀ out, format converted.toList (texts.map String.toList) = some out →
        out = fill (texts.map String.toList) (sp.map Prod.fst) sql.toList := by
  obtain ⟨ps, read, rfl⟩ := spans_eq_ok h
  have starts : (ps.map span).map Prod.fst = ps := by
    simp [Function.comp_def, span]
  have formatted := format_percent (lawful.places_marked read) (texts.map String.toList)
  refine ⟨String.ofList (percent 0 sql.toList ps), by rw [toPercent_eq, read]; rfl, ?_, ?_⟩
  · rw [align_list h, String.toList_ofList, formatted]
    simp
  · intro out done
    rw [String.toList_ofList, formatted] at done
    rw [starts]
    split at done
    · exact (Option.some.inj done).symm
    · cases done

end Tokenizers

/-- Formatting the percent form of a statement succeeds for the texts that line up with its
placeholders and for no others, and puts them in their places. -/
theorem format_toPercent {sql : String} {sp : List (Nat × Nat)} (h : spans sql = .ok sp)
    (texts : List String) :
    ∃ converted, toPercent sql = .ok converted ∧
      ((∃ out, format converted.toList (texts.map String.toList) = some out) ↔
        ∃ n, align sql (.list (texts.map .text)) = .ok n) ∧
      ∀ out, format converted.toList (texts.map String.toList) = some out →
        out = fill (texts.map String.toList) (sp.map Prod.fst) sql.toList :=
  format_of_lawful tokens_lawful h texts

theorem format_toPercent_remainder :
    spans "SELECT '%s?' WHERE a = ? OR b % 2 = ?" = .ok [(23, 24), (36, 37)] ∧
      ∃ converted, toPercent "SELECT '%s?' WHERE a = ? OR b % 2 = ?" = .ok converted ∧
        format converted.toList ["?%s".toList, "%".toList] =
          some "SELECT '%s?' WHERE a = ?%s OR b % 2 = %".toList := by
  have found : spans "SELECT '%s?' WHERE a = ? OR b % 2 = ?" = .ok [(23, 24), (36, 37)] := rfl
  obtain ⟨converted, done, formatted, filled⟩ := format_toPercent found ["?%s", "%"]
  obtain ⟨out, read⟩ := formatted.mpr ((align_list found [.text "?%s", .text "%"]).mpr rfl)
  refine ⟨found, converted, done, read.trans ?_⟩
  rw [filled out read]
  decide

end TableQuery.Placeholder
