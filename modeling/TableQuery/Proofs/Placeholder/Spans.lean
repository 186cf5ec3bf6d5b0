import TableQuery.Proofs.Placeholder.Percent

/-!
# Spans of placeholders

The placeholders of a statement are question marks of it, named from the first to the last and none
of them twice. The pieces that the percent form is made of are the text between them, so that
nothing of a statement is lost or said twice by cutting it. The main statement is `spans_cut`.
-/

namespace TableQuery.Placeholder

namespace Marked

variable {pos : Nat} {cs : List Char} {ps : List Nat}

theorem ascending (marked : Marked pos cs ps) : ps.Pairwise (· < ·) := by
  induction marked with
  | nil => exact .nil
  | skip c _ ih => exact ih
  | mark rest ih => exact .cons (fun p later => rest.le_of_mem later) ih

theorem question (marked : Marked pos cs ps) {p : Nat} (member : p ∈ ps) :
    cs[p - pos]? = some '?' := by
  induction marked with
  | nil => cases member
  | @skip pos cs ps c rest ih =>
    have after : pos + 1 ≤ p := rest.le_of_mem member
    have moved : p - pos = p - (pos + 1) + 1 := by omega
    rw [moved, List.getElem?_cons_succ]
    exact ih member
  | @mark pos cs ps rest ih =>
    rcases List.mem_cons.mp member with rfl | later
    · rw [Nat.sub_self]
      rfl
    · have after : pos + 1 ≤ p := rest.le_of_mem later
      have moved : p - pos = p - (pos + 1) + 1 := by omega
      rw [moved, List.getElem?_cons_succ]
      exact ih later

theorem length_le_count (marked : Marked pos cs ps) : ps.length ≤ cs.count '?' := by
  induction marked with
  | nil => exact Nat.le_refl 0
  | skip c _ ih => exact Nat.le_trans ih List.count_le_count_cons
  | mark _ ih =>
    rw [List.length_cons, List.count_cons_self]
    exact Nat.succ_le_succ ih

/-- Question marks between the pieces make the text again. -/
theorem intercalate_pieces (marked : Marked pos cs ps) : ['?'].intercalate (pieces pos cs ps) = cs := by
  induction marked with
  | nil pos => rfl
  | @skip pos cs ps c rest ih =>
    obtain ⟨first, others, cut, cut'⟩ := pieces_skip (fun p later => rest.le_of_mem later) c cs
    rw [cut] at ih
    rw [cut']
    cases others with
    | nil => simpa using ih
    | cons next others =>
      rw [List.intercalate_cons_cons] at ih ⊢
      rw [← ih]
      rfl
  | @mark pos cs ps rest ih =>
    have cut : pieces pos ('?' :: cs) (pos :: ps) = [] :: pieces (pos + 1) cs ps := by
      simp [pieces]
    rw [cut, List.intercalate_cons_of_ne_nil (pieces_ne_nil (pos + 1) cs ps), ih]
    rfl

end Marked

theorem length_pieces (pos : Nat) (cs : List Char) (ps : List Nat) :
    (pieces pos cs ps).length = ps.length + 1 := by
  induction ps generalizing pos cs with
  | nil => rfl
  | cons p ps ih => rw [pieces, List.length_cons, ih, List.length_cons]

/-- The spans of a statement are ascending and do not overlap, and each is one question mark of it.
The pieces of its percent form are one more than the spans, and are the statement again with the
question marks back between them. -/
theorem spans_cut {sql : String} {sp : List (Nat × Nat)} (read : spans sql = .ok sp) :
    let cut := pieces 0 sql.toList (sp.map Prod.fst)
    sp.Pairwise (fun s t => s.1 < t.1 ∧ s.2 ≤ t.1) ∧
      (∀ s ∈ sp, s.2 = s.1 + 1 ∧ s.1 < sql.length ∧ sql.toList[s.1]? = some '?') ∧
      sp.length ≤ sql.toList.count '?' ∧
      toPercent sql = .ok (String.ofList (['%', 's'].intercalate (cut.map doublePercent))) ∧
      cut.length = sp.length + 1 ∧ ['?'].intercalate cut = sql.toList := by
  obtain ⟨ps, found, rfl⟩ := spans_eq_ok read
  have marked := Sql.tokens_lawful.places_marked found
  have starts : (ps.map span).map Prod.fst = ps := by
    simp [Function.comp_def, span]
  dsimp only
  rw [starts, List.length_map]
  refine ⟨?_, ?_, marked.length_le_count, ?_, length_pieces 0 sql.toList ps,
    marked.intercalate_pieces⟩
  · rw [List.pairwise_map]
    exact marked.ascending.imp fun before => ⟨before, before⟩
  · intro s member
    obtain ⟨p, place, rfl⟩ := List.mem_map.mp member
    have question : sql.toList[p]? = some '?' := marked.question place
    obtain ⟨inside, -⟩ := List.getElem?_eq_some_iff.mp question
    exact ⟨rfl, by rwa [String.length_toList] at inside, question⟩
  · rw [toPercent_eq, found]
    rfl

/-- A literal, a comment and two commands hold question marks that are no placeholders, and a number
and a wide space stand next to one that is. -/
theorem spans_cut_commands :
    let sql := "SELECT '%?', 1e+5?\u2003/* ? */;LOCK TABLES t ?;CALL f(?);?"
    let cut := pieces 0 sql.toList [17, 53]
    spans sql = .ok [(17, 18), (53, 54)] ∧ sql.toList.count '?' = 6 ∧
      ['?'].intercalate cut = sql.toList ∧
      toPercent sql = .ok (String.ofList (['%', 's'].intercalate (cut.map doublePercent))) := by
  intro sql cut
  have read : spans sql = .ok [(17, 18), (53, 54)] := by
    dsimp only [sql]
    exact rfl
  obtain ⟨-, -, -, percent, -, whole⟩ := spans_cut read
  exact ⟨read, by decide, whole, percent⟩

end TableQuery.Placeholder
