import TableQuery.Proofs.Placeholder.Conversions
import TableQuery.Proofs.Sql.Unquoted

/-!
# Placeholders of unquoted texts

Where no quoted text and no comment can begin, a question mark is missed for one of two reasons: it
belongs to an operator, or it stands in the text of a command. `all_marked` shows that nothing is
missed only if there are neither, `marked_all` that nothing is missed then, and `spans_unquoted` puts
them together.
-/

namespace TableQuery.Placeholder
open Sql

/-! ### What hides a question mark -/

/-- No question mark stands before another one or before two colons. -/
def Single (cs : List Char) : Prop := ¬ ['?', '?'] <:+: cs ∧ ¬ ['?', ':', ':'] <:+: cs

/-- The places of the commands that a scan takes for their texts: those that are first, or follow a
separator or an opening word. `prev` is the kind of the token before. -/
def commands (prev : Option TokenKind) : List Token → List Nat
  | [] => []
  | t :: ts =>
    (if t.kind = .command ∧ takesText prev none then [t.start] else []) ++ commands (some t.kind) ts

/-- A command with its text, up to the separator. -/
def commandText (sql : List Char) (place : Nat) : List Char := (sql.drop place).takeWhile (· != ';')

/-- No question mark stands in the text of a command. -/
def Silent (sql : List Char) (prev : Option TokenKind) (ts : List Token) : Prop :=
  ∀ j ∈ commands prev ts, '?' ∉ commandText sql j

instance (cs : List Char) : Decidable (Single cs) := inferInstanceAs (Decidable (_ ∧ _))

instance (sql : List Char) (prev : Option TokenKind) (ts : List Token) :
    Decidable (Silent sql prev ts) :=
  List.decidableBAll (fun j => '?' ∉ commandText sql j) (commands prev ts)

theorem single_cons {c : Char} {cs : List Char} :
    Single (c :: cs) ↔ (c = '?' → ¬ ['?'] <+: cs ∧ ¬ [':', ':'] <+: cs) ∧ Single cs := by
  unfold Single
  simp only [List.infix_cons_iff, List.cons_prefix_cons]
  tauto

theorem Single.cons {c : Char} {cs : List Char} (other : c ≠ '?') (single : Single cs) :
    Single (c :: cs) :=
  single_cons.mpr ⟨fun same => (other same).elim, single⟩

theorem single_nil : Single [] := by simp [Single]

theorem takeWhile_separator {c : Char} (other : c ≠ ';') (cs : List Char) :
    (c :: cs).takeWhile (· != ';') = c :: cs.takeWhile (· != ';') :=
  List.takeWhile_cons_of_pos (by simpa using other)

theorem not_mem_takeWhile_cons {c : Char} {cs : List Char} (other : c ≠ '?')
    (none : '?' ∉ cs.takeWhile (· != ';')) : '?' ∉ (c :: cs).takeWhile (· != ';') := by
  rw [List.takeWhile_cons]
  split
  · exact List.not_mem_cons_of_ne_of_not_mem (Ne.symm other) none
  · exact List.not_mem_nil

theorem commands_close (prev : Option TokenKind) (zone : Zone) (pos : Nat) (ts : List Token) :
    commands prev (zone.close ++ ⟨.separator, pos⟩ :: ts) = commands (some .separator) ts := by
  rcases zone with _ | ⟨start, _ | _⟩ <;> simp [Zone.close, commands]

theorem commands_zone_close (prev : Option TokenKind) (zone : Zone) :
    commands prev zone.close = [] := by
  rcases zone with _ | ⟨start, _ | _⟩ <;> simp [Zone.close, commands]

/-- The text of a command holds no command. -/
theorem commands_congr {zone : Zone} {prev : Option TokenKind} {inside pos : Nat} {cs : List Char}
    {ts : List Token} (scans : Scans zone prev inside pos cs ts) (command : zone.isCommand = true)
    (p q : Option TokenKind) : commands p ts = commands q ts := by
  induction scans with
  | nil zone => rw [commands_zone_close, commands_zone_close]
  | inside _ _ ih => exact ih command
  | blank _ _ ih => exact ih command
  | separator => rw [commands_close, commands_close]
  | @comment zone _ _ _ _ _ _ _ _ ih =>
    cases zone with
    | statement => cases command
    | command start filled => exact ih rfl
  | dropped _ _ _ ih => exact ih rfl
  | token => cases command

theorem drop_succ {sql cs : List Char} {c : Char} {pos : Nat} (here : sql.drop pos = c :: cs) :
    sql.drop (pos + 1) = cs := by
  rw [← List.drop_drop, here]
  rfl

/-! ### Nothing is missed -/

theorem idxsOf_question (cs : List Char) (pos : Nat) :
    ('?' :: cs).idxsOf '?' pos = pos :: cs.idxsOf '?' (pos + 1) := by
  rw [List.idxsOf_cons]
  rfl

theorem idxsOf_other {c : Char} (other : c ≠ '?') (cs : List Char) (pos : Nat) :
    (c :: cs).idxsOf '?' pos = cs.idxsOf '?' (pos + 1) := by
  rw [List.idxsOf_cons, if_neg (by simpa using other)]

/-- A place that is skipped is no question mark, if all question marks are found. -/
theorem skipped {c : Char} {cs : List Char} {pos : Nat} {ps : List Nat} (marked : Marked (pos + 1) cs ps)
    (all : ps = (c :: cs).idxsOf '?' pos) : c ≠ '?' ∧ ps = cs.idxsOf '?' (pos + 1) := by
  by_cases question : c = '?'
  · subst question
    rw [idxsOf_question] at all
    have before := marked.le_of_mem (p := pos) (by rw [all]; exact List.mem_cons_self)
    omega
  · rw [idxsOf_other question] at all
    exact ⟨question, all⟩

/-- What follows a command word for which a separator comes at once. -/
theorem takeWhile_subset_take {cs : List Char} {n : Nat} (next : (cs.drop n).head? = some ';') :
    cs.takeWhile (· != ';') ⊆ cs.take n := by
  obtain ⟨rest, behind⟩ := List.head?_eq_some_iff.mp next
  have split : cs = cs.take n ++ ';' :: rest := by rw [← behind, List.take_append_drop]
  intro d member
  rw [split, List.takeWhile_append] at member
  split at member
  · simpa using member
  · exact (List.takeWhile_prefix _).mem member

theorem all_marked {sql : List Char} {zone : Zone} {prev : Option TokenKind} {inside pos : Nat}
    {cs : List Char} {ts : List Token} (scans : Scans zone prev inside pos cs ts)
    (here : sql.drop pos = cs) (all : ofTokens ts = cs.idxsOf '?' pos) :
    Single cs ∧ Silent sql prev ts ∧ '?' ∉ cs.take inside ∧
      (zone.isCommand = true → '?' ∉ cs.takeWhile (· != ';')) := by
  induction scans with
  | nil zone prev =>
    refine ⟨single_nil, fun j member => ?_, by simp, fun _ => by simp⟩
    rw [commands_zone_close] at member
    cases member
  | inside c rest ih =>
    obtain ⟨other, all⟩ := skipped (.of_scans rest) all
    obtain ⟨single, silent, quiet, text⟩ := ih (drop_succ here) all
    refine ⟨single.cons other, silent, ?_,
      fun command => not_mem_takeWhile_cons other (text command)⟩
    rw [List.take_succ_cons]
    exact List.not_mem_cons_of_ne_of_not_mem (Ne.symm other) quiet
  | blank blank rest ih =>
    obtain ⟨other, all⟩ := skipped (.of_scans rest) all
    obtain ⟨single, silent, -, text⟩ := ih (drop_succ here) all
    exact ⟨single.cons other, silent, List.not_mem_nil,
      fun command => not_mem_takeWhile_cons other (text command)⟩
  | separator rest ih =>
    rw [ofTokens_append, ofTokens_close, ofTokens_cons] at all
    obtain ⟨other, all⟩ := skipped (.of_scans rest) all
    obtain ⟨single, silent, -, -⟩ := ih (drop_succ here) all
    refine ⟨single.cons other, fun j member => ?_, List.not_mem_nil, fun _ => by simp⟩
    rw [commands_close] at member
    exact silent j member
  | @comment zone _ _ _ _ _ _ lexed rest ih =>
    obtain ⟨other, all⟩ := skipped (.of_scans rest) all
    obtain ⟨single, silent, -, text⟩ := ih (drop_succ here) all
    have filled : zone.fill.isCommand = zone.isCommand := by cases zone <;> rfl
    rw [filled] at text
    exact ⟨single.cons other, silent, List.not_mem_nil,
      fun command => not_mem_takeWhile_cons other (text command)⟩
  | @dropped _ _ _ _ prev _ _ kind _ _ lexed rest ih =>
    obtain ⟨other, all⟩ := skipped (.of_scans rest) all
    obtain ⟨single, silent, -, text⟩ := ih (drop_succ here) all
    refine ⟨single.cons other, ?_, List.not_mem_nil,
      fun command => not_mem_takeWhile_cons other (text rfl)⟩
    unfold Silent
    rwa [commands_congr rest rfl prev (some kind)]
  | @token prev pos more c cs kind ts lexed rest ih =>
    rw [ofTokens_cons] at all
    by_cases place : kind = .placeholder
    · subst place
      obtain ⟨rfl, rfl⟩ := lexeme_placeholder lexed
      rw [if_pos rfl, idxsOf_question] at all
      obtain ⟨single, silent, -, -⟩ := ih (drop_succ here) (List.cons.inj all).2
      exact ⟨single_cons.mpr ⟨fun _ => lexeme_question_iff.mp lexed, single⟩, silent,
        List.not_mem_nil, fun command => by cases command⟩
    · rw [if_neg place] at all
      obtain ⟨other, all⟩ := skipped (.of_scans rest) all
      obtain ⟨single, silent, quiet, text⟩ := ih (drop_succ here) all
      refine ⟨single.cons other, fun j member => ?_, List.not_mem_nil,
        fun command => by cases command⟩
      rcases List.mem_append.mp member with first | later
      · split at first
        · rename_i takes
          obtain ⟨command, opens⟩ := takes
          obtain rfl : j = pos := List.mem_singleton.mp first
          unfold commandText
          rw [here]
          refine not_mem_takeWhile_cons other ?_
          by_cases next : (cs.drop more).head? = some ';'
          · exact fun found => quiet (takeWhile_subset_take next found)
          · refine text ?_
            dsimp only at command
            rw [command, Zone.behind_command opens next]
            rfl
        · cases first
      · exact silent j later

/-! ### Everything is found -/

theorem marked_all {sql : List Char} {zone : Zone} {prev : Option TokenKind} {inside pos : Nat}
    {cs : List Char} {ts : List Token} (scans : Scans zone prev inside pos cs ts)
    (here : sql.drop pos = cs) (unquoted : Unquoted cs) (single : Single cs)
    (silent : Silent sql prev ts) (quiet : '?' ∉ cs.take inside)
    (text : zone.isCommand = true → ';' ∉ cs.take inside ∧ '?' ∉ cs.takeWhile (· != ';')) :
    ofTokens ts = cs.idxsOf '?' pos := by
  induction scans with
  | nil zone =>
    rw [ofTokens_close]
    rfl
  | @inside zone _ n _ cs _ c rest ih =>
    rw [List.take_succ_cons] at quiet text
    obtain ⟨other, quiet⟩ := List.ne_and_not_mem_of_not_mem_cons quiet
    rw [idxsOf_other (Ne.symm other)]
    refine ih (drop_succ here) unquoted.tail (single_cons.mp single).2 silent quiet fun command => ?_
    obtain ⟨within, text⟩ := text command
    obtain ⟨goes, within⟩ := List.ne_and_not_mem_of_not_mem_cons within
    rw [takeWhile_separator (Ne.symm goes)] at text
    exact ⟨within, (List.ne_and_not_mem_of_not_mem_cons text).2⟩
  | @blank zone _ _ c cs _ blank rest ih =>
    have other : c ≠ '?' := by
      rintro rfl
      cases blank
    have goes : c ≠ ';' := by
      rintro rfl
      cases blank
    rw [idxsOf_other other]
    refine ih (drop_succ here) unquoted.tail (single_cons.mp single).2 silent List.not_mem_nil
      fun command => ⟨List.not_mem_nil, ?_⟩
    have text := (text command).2
    rw [takeWhile_separator goes] at text
    exact (List.ne_and_not_mem_of_not_mem_cons text).2
  | separator rest ih =>
    rw [ofTokens_append, ofTokens_close, ofTokens_cons, idxsOf_other (by decide)]
    unfold Silent at silent
    rw [commands_close] at silent
    exact ih (drop_succ here) unquoted.tail (single_cons.mp single).2 silent List.not_mem_nil
      fun command => by cases command
  | @comment _ prev pos _ _ _ _ lexed rest ih =>
    obtain ⟨kind, more, read, -⟩ := lexeme_unquoted prev pos unquoted
    rw [lexed] at read
    cases read
  | @dropped _ pos more _ prev c cs kind _ goes lexed rest ih =>
    obtain ⟨-, text⟩ := text rfl
    rw [takeWhile_separator goes] at text
    obtain ⟨other, text⟩ := List.ne_and_not_mem_of_not_mem_cons text
    obtain ⟨_, _, read, within, quiet⟩ := lexeme_unquoted prev pos unquoted
    rw [lexed] at read
    cases read
    rw [idxsOf_other (Ne.symm other)]
    unfold Silent at silent
    rw [commands_congr rest rfl prev (some kind)] at silent
    exact ih (drop_succ here) unquoted.tail (single_cons.mp single).2 silent (quiet (Ne.symm other))
      fun _ => ⟨within, text⟩
  | @token prev pos more c cs kind ts lexed rest ih =>
    obtain ⟨alone, tail⟩ := single_cons.mp single
    obtain ⟨first, later⟩ := List.forall_mem_append.mp silent
    rw [ofTokens_cons]
    by_cases question : c = '?'
    · subst question
      obtain ⟨rfl, rfl⟩ : kind = .placeholder ∧ more = 0 := by
        rw [lexeme_question_iff.mpr (alone rfl)] at lexed
        cases lexed
        exact ⟨rfl, rfl⟩
      rw [if_pos rfl, idxsOf_question,
        ih (drop_succ here) unquoted.tail tail later List.not_mem_nil fun command => by cases command]
    · have place : kind ≠ .placeholder := by
        rintro rfl
        exact question (lexeme_placeholder lexed).1
      obtain ⟨_, _, read, within, quiet⟩ := lexeme_unquoted prev pos unquoted
      rw [lexed] at read
      cases read
      rw [if_neg place, idxsOf_other question]
      refine ih (drop_succ here) unquoted.tail tail later (quiet question) fun command =>
        ⟨within, ?_⟩
      -- The zone is a command's only behind its word, which is not a separator.
      obtain ⟨rfl, opens⟩ := Zone.command_of_behind command
      have goes : c ≠ ';' := by
        rintro rfl
        rw [lexeme_separator] at lexed
        cases lexed
      have text : '?' ∉ commandText sql pos := first pos (by simp [opens])
      unfold commandText at text
      rw [here, takeWhile_separator goes] at text
      exact (List.ne_and_not_mem_of_not_mem_cons text).2

/-! ### Placeholders of a text -/

theorem Marked.sublist {pos : Nat} {cs : List Char} {ps : List Nat} (marked : Marked pos cs ps) :
    ps.Sublist (cs.idxsOf '?' pos) := by
  induction marked with
  | nil => exact .slnil
  | @skip pos cs ps c _ ih =>
    by_cases question : c = '?'
    · subst question
      rw [idxsOf_question]
      exact ih.cons pos
    · rw [idxsOf_other question]
      exact ih
  | mark _ ih =>
    rw [idxsOf_question]
    exact ih.cons_cons _

theorem align_returns {sql : String} {ps : List (Nat × Nat)} (read : spans sql = .ok ps)
    (values : List Value) :
    (∃ n, align sql (.tuple values) = .ok n) ↔ ps.length = values.length := by
  rw [align_tuple read]
  split
  · rename_i same
    exact ⟨fun _ => same, fun _ => ⟨_, rfl⟩⟩
  · rename_i other
    refine ⟨?_, fun same => (other same).elim⟩
    rintro ⟨n, accepted⟩
    cases accepted

/-- An unquoted text is always read. Its placeholders are all of its question marks, one span for
each from the first to the last, if and only if none stands before another one or two colons and none
in the text of a command that a statement begins with. Only then can it be run with one value for
each question mark. -/
theorem spans_unquoted {sql : String} (unquoted : Unquoted sql.toList) :
    ∃ ts, tokens sql.toList = .ok ts ∧ spans sql = .ok ((ofTokens ts).map span) ∧
      let found := Single sql.toList ∧ Silent sql.toList none ts
      (spans sql = .ok ((sql.toList.idxsOf '?').map span) ↔ found) ∧
        ∀ values : List Value, values.length = sql.toList.count '?' →
          ((∃ n, align sql (.tuple values) = .ok n) ↔ found) := by
  obtain ⟨ts, read⟩ := scan_unquoted .statement none 0 0 unquoted
  have scans := scans_of_scan read
  have placed : places sql = .ok (ofTokens ts) := by
    unfold places tokens
    rw [read]
  have spanned : spans sql = .ok ((ofTokens ts).map span) := by
    rw [spans, placed]
    rfl
  have all : ofTokens ts = sql.toList.idxsOf '?' ↔ Single sql.toList ∧ Silent sql.toList none ts := by
    constructor
    · intro all
      obtain ⟨single, silent, -⟩ := all_marked scans rfl all
      exact ⟨single, silent⟩
    · rintro ⟨single, silent⟩
      exact marked_all scans rfl unquoted single silent List.not_mem_nil
        fun command => by cases command
  refine ⟨ts, read, spanned, ?_, fun values given => ?_⟩
  · rw [← all, spanned, Except.ok.injEq]
    exact List.map_inj_right fun i j same => congrArg Prod.fst same
  · rw [← all, align_returns spanned, List.length_map, given]
    refine ⟨(Marked.of_scans scans).sublist.eq_of_length ∘ fun same => ?_, fun same => ?_⟩
    · rw [same, List.length_idxsOf]
    · rw [same, List.length_idxsOf]

/-- A command without question marks may follow a statement with one. -/
theorem spans_unquoted_select :
    let sql := "SELECT ?; CALL f(1)"
    Unquoted sql.toList ∧ spans sql = .ok [(7, 8)] ∧
      ∃ n, align sql (.tuple [.int 5]) = .ok n := by
  intro sql
  have unquoted : Unquoted sql.toList := by decide
  obtain ⟨ts, read, -, found, accepted⟩ := spans_unquoted unquoted
  have known : tokens sql.toList = .ok
      [⟨.other, 0⟩, ⟨.placeholder, 7⟩, ⟨.separator, 8⟩, ⟨.command, 10⟩, ⟨.other, 14⟩] := by
    decide +kernel
  rw [known] at read
  cases read
  have nothing : Single sql.toList ∧ Silent sql.toList none
      [⟨.other, 0⟩, ⟨.placeholder, 7⟩, ⟨.separator, 8⟩, ⟨.command, 10⟩, ⟨.other, 14⟩] := by
    decide +kernel
  have one : (sql.toList.idxsOf '?').map span = [(7, 8)] := by decide +kernel
  exact ⟨unquoted, one ▸ found.mpr nothing, (accepted [.int 5] (by decide)).mpr nothing⟩

/-- The question mark of a call is missed, and the call is refused with a value for it. -/
theorem spans_unquoted_call :
    let sql := "CALL f(?)"
    Unquoted sql.toList ∧ (sql.toList.idxsOf '?').map span = [(7, 8)] ∧ spans sql = .ok [] ∧
      align sql (.tuple [.int 5]) = .error (.placeholders (.miscounted 0 1) sql) := by
  intro sql
  have missed : spans "CALL f(?)" = .ok [] := rfl
  exact ⟨by decide, by decide, missed, align_tuple missed _⟩

end TableQuery.Placeholder
