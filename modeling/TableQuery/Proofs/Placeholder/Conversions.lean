import TableQuery.Proofs.Placeholder.Percent

/-!
# Conversions

A driver puts one value in the place of each conversion `%s`. The percent form of a statement has as
many of them as the statement has placeholders, so whatever lines up with a statement lines up with
its percent form. A statement that does not line up with its values is refused with its text.
-/

namespace TableQuery.Placeholder
open Sql (Tokenizer)

/-- How many conversions `%s` a text has, where a pair of percent signs is none. -/
def conversions : List Char → Nat
  | [] => 0
  | c :: rest =>
    if c == '%' then
      match rest with
      | [] => 0
      | d :: rest =>
        if d == '%' then conversions rest
        else if d == 's' then conversions rest + 1
        else conversions rest
    else conversions rest

theorem conversions_doublePercent (c : Char) (rest : List Char) :
    conversions (doublePercent [c] ++ rest) = conversions rest := by
  by_cases h : c = '%'
  · subst h
    simp [doublePercent, conversions]
  · have other : (c == '%') = false := beq_eq_false_iff_ne.mpr h
    have kept : doublePercent [c] ++ rest = c :: rest := by simp [doublePercent, h]
    rw [kept, conversions.eq_def]
    simp only [other, Bool.false_eq_true, if_false]

theorem conversions_mark (rest : List Char) :
    conversions ('%' :: 's' :: rest) = conversions rest + 1 := by
  simp [conversions]

/-- The percent form has a conversion for each place and no other. -/
theorem conversions_percent {pos : Nat} {cs : List Char} {ps : List Nat} (marked : Marked pos cs ps) :
    conversions (percent pos cs ps) = ps.length := by
  induction marked with
  | nil pos => rfl
  | skip c rest ih =>
    rw [percent_skip fun p member => rest.le_of_mem member, conversions_doublePercent, ih]
  | mark rest ih => rw [percent_mark, conversions_mark, ih, List.length_cons]

section Tokenizers

variable {tokenize : Tokenizer} {sql : String}

/-- Formatting the percent form takes as many texts as the statement has placeholders, and fails for
any other number of them. -/
theorem toPercent_conversions (lawful : tokenize.Lawful) {text : String}
    (h : toPercent sql tokenize = .ok text) :
    ∃ sp, spans sql tokenize = .ok sp ∧ conversions text.toList = sp.length ∧
      ∀ texts, (∃ out, format text.toList texts = some out) ↔ texts.length = sp.length := by
  rw [toPercent_eq] at h
  obtain ⟨ps, read, rfl⟩ := map_eq_ok.mp h
  have marked := lawful.places_marked read
  refine ⟨ps.map span, by rw [spans, read]; rfl, ?_, fun texts => ?_⟩
  · rw [String.toList_ofList, conversions_percent marked, List.length_map]
  · rw [String.toList_ofList, format_percent marked, List.length_map]
    by_cases same : ps.length = texts.length
    · rw [if_pos same]
      exact ⟨fun _ => same.symm, fun _ => ⟨_, rfl⟩⟩
    · rw [if_neg same]
      refine ⟨?_, fun same' => (same same'.symm).elim⟩
      rintro ⟨out, never⟩
      cases never

/-! ### Lining up with a row of values -/

theorem align_tuple {sp : List (Nat × Nat)} (h : spans sql tokenize = .ok sp)
    (values : List Value) :
    align sql (.tuple values) tokenize =
      if sp.length = values.length then .ok sp.length
      else .error (.placeholders (.miscounted sp.length values.length) sql) := by
  have size : (Value.tuple values).size? = .ok values.length := rfl
  simp only [align, h, size, ok_bind]
  rfl

/-- A statement that cannot be read, or does not line up with its values, is refused with its text. -/
theorem align_refused {values : List Value}
    (unfit : ∀ sp, spans sql tokenize = .ok sp → sp.length ≠ values.length) :
    ∃ f, align sql (.tuple values) tokenize = .error (.placeholders f sql) := by
  cases read : spans sql tokenize with
  | ok sp =>
    refine ⟨_, (align_tuple read values).trans (if_neg (unfit sp read))⟩
  | error f =>
    have refused : align sql (.tuple values) tokenize = .error f := by
      simp only [align, read, error_bind]
    unfold spans places at read
    split at read
    · cases read
    · cases read
      exact ⟨_, refused⟩

end Tokenizers

end TableQuery.Placeholder
