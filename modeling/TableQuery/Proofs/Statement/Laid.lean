import Mathlib.Data.List.Basic
import TableQuery.Placeholder
import TableQuery.Proofs.Except
import TableQuery.Statement.Basic

/-!
# Clauses laid out in a statement

`Laid cs text` says that the clauses `cs` stand in a text one after the other and that all of its
question marks are in them. If each clause has as many values as question marks, the values of the
clauses in turn are those of the question marks in turn, which is `Laid.placed`. A statement is
`Aligned` with clauses if moreover its placeholders are its question marks.
-/

namespace TableQuery

/-- Where the question marks of a text are. -/
def questions (text : String) : List Nat := text.toList.idxsOf '?'

theorem length_questions (text : String) : (questions text).length = text.toList.count '?' :=
  List.length_idxsOf

theorem questions_eq_nil {text : String} (plain : '?' ∉ text.toList) : questions text = [] := by
  refine List.idxsOf_eq_nil_iff.mpr fun c member => beq_eq_false_iff_ne.mpr ?_
  rintro rfl
  exact plain member

theorem questions_append (s t : String) :
    questions (s ++ t) = questions s ++ (questions t).map (s.length + ·) := by
  unfold questions
  rw [String.toList_append, List.idxsOf_append, List.idxsOf_start (s := 0 + _)]
  simp only [Nat.zero_add, String.length_toList, Nat.add_comm]

/-- A clause with as many values as question marks. -/
def Clause.Full (c : Clause) : Prop := (questions c.sql.display).length = c.values.length

/-- A text in which clauses stand one after the other, with no question mark but theirs. -/
inductive Laid : List Clause → String → Prop where
  | nil {text : String} (plain : '?' ∉ text.toList) : Laid [] text
  | cons {c : Clause} {cs : List Clause} {glue text : String} (plain : '?' ∉ glue.toList)
      (rest : Laid cs text) : Laid (c :: cs) (glue ++ c.sql.display ++ text)

namespace Laid

theorem glue {cs : List Clause} {glue text : String} (plain : '?' ∉ glue.toList)
    (laid : Laid cs text) : Laid cs (glue ++ text) := by
  cases laid with
  | nil plain' => exact .nil (by simp [plain, plain'])
  | cons plain' rest =>
    rw [← String.append_assoc, ← String.append_assoc]
    exact .cons (by simp [plain, plain']) rest

theorem append {cs ds : List Clause} {s t : String} (hs : Laid cs s) (ht : Laid ds t) :
    Laid (cs ++ ds) (s ++ t) := by
  induction hs with
  | nil plain => exact ht.glue plain
  | cons plain _ ih =>
    rw [String.append_assoc]
    exact .cons plain ih

theorem length_questions {cs : List Clause} {text : String} (laid : Laid cs text)
    (full : ∀ c ∈ cs, c.Full) : (questions text).length = (Clause.allValues cs).length := by
  induction laid with
  | nil plain =>
    rw [questions_eq_nil plain]
    rfl
  | cons plain _ ih =>
    have first := full _ List.mem_cons_self
    have rest := ih fun d member => full d (List.mem_cons_of_mem _ member)
    unfold Clause.Full at first
    rw [questions_append, questions_append, questions_eq_nil plain, List.nil_append]
    simp only [List.length_append, List.length_map, first, rest, Clause.allValues,
      List.flatMap_cons]

/-- Each value belongs to the question mark of its clause that stands in the same place. -/
theorem placed {cs : List Clause} {text : String} (laid : Laid cs text)
    (full : ∀ c ∈ cs, c.Full) {i : Nat} {v : Value} (bound : (Clause.allValues cs)[i]? = some v) :
    ∃ c ∈ cs, ∃ (before after : String) (j p : Nat), text = before ++ c.sql.display ++ after ∧
      c.values[j]? = some v ∧ (questions c.sql.display)[j]? = some p ∧
      (questions text)[i]? = some (before.length + p) := by
  induction laid generalizing i with
  | nil => simp [Clause.allValues] at bound
  -- The values of the first clause come first, and so do its question marks.
  | @cons c cs glue text plain _ ih =>
    have first : (questions c.sql.display).length = c.values.length :=
      full c List.mem_cons_self
    have found : questions (glue ++ c.sql.display ++ text) =
        (questions c.sql.display).map (glue.length + ·) ++
          (questions text).map ((glue ++ c.sql.display).length + ·) := by
      rw [questions_append, questions_append, questions_eq_nil plain, List.nil_append]
    have values : Clause.allValues (c :: cs) = c.values ++ Clause.allValues cs := by
      simp [Clause.allValues]
    rw [values] at bound
    by_cases inside : i < c.values.length
    · rw [List.getElem?_append_left inside] at bound
      obtain ⟨p, place⟩ : ∃ p, (questions c.sql.display)[i]? = some p :=
        ⟨_, List.getElem?_eq_getElem (first ▸ inside)⟩
      refine ⟨c, List.mem_cons_self, glue, text, i, p, rfl, bound, place, ?_⟩
      rw [found, List.getElem?_append_left (by simpa [first] using inside), List.getElem?_map, place]
      rfl
    · have beyond : c.values.length ≤ i := by omega
      rw [List.getElem?_append_right beyond] at bound
      obtain ⟨d, member, before, after, j, p, rfl, value, place, placed⟩ :=
        ih (fun d member => full d (List.mem_cons_of_mem _ member)) bound
      refine ⟨d, List.mem_cons_of_mem _ member, glue ++ c.sql.display ++ before, after, j, p, ?_,
        value, place, ?_⟩
      · simp only [String.append_assoc]
      · rw [found, List.getElem?_append_right (by simpa [first] using beyond), List.length_map,
          first, List.getElem?_map, placed]
        simp [Nat.add_assoc]

end Laid

end TableQuery
