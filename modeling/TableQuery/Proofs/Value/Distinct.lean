import Mathlib.Data.List.Induction
import Mathlib.Data.List.Nodup
import TableQuery.Value.Basic

/-!
# Entries under names

Setting a name keeps the place of an entry that is there and puts a new one at the end. So when
named values are set one after another, every name is there once, in the order of the first
(`distinct_keys`), and holds the last of its values (`lookup?_distinct`). Nothing is lost when the
names are different (`distinct_of_nodup`), and otherwise there are fewer entries than values.
-/

namespace TableQuery.Value

variable {α : Type} {names : List String} {name : String}

/-- Only the same text equals a text. -/
@[simp]
theorem same_text (name : String) (key : Value) : (text name).same key = true ↔ key = text name := by
  cases key with
  | text s =>
    rw [same, beq_iff_eq, text.injEq]
    exact eq_comm
  | _ => simp [same, number?]

theorem insert_present {es : List (Value × α)} (v : α) (there : text name ∈ es.map Prod.fst) :
    (insert (text name) v es).map Prod.fst = es.map Prod.fst := by
  induction es with
  | nil => cases there
  | cons e es ih =>
    obtain ⟨key, w⟩ := e
    rw [insert]
    split
    · rfl
    · rename_i other
      rw [same_text] at other
      have later : text name ∈ es.map Prod.fst :=
        (List.mem_cons.mp there).resolve_left (Ne.symm other)
      exact congrArg (key :: ·) (ih later)

theorem insert_absent {es : List (Value × α)} (v : α) (absent : text name ∉ es.map Prod.fst) :
    insert (text name) v es = es ++ [(text name, v)] := by
  induction es with
  | nil => rfl
  | cons e es ih =>
    obtain ⟨key, w⟩ := e
    obtain ⟨other, later⟩ := not_or.mp (mt List.mem_cons.mpr absent)
    rw [insert, if_neg (mt (same_text name key).mp (Ne.symm other)), ih later]
    rfl

theorem lookup?_cons (key other : Value) (w : Value) (es : List (Value × Value)) :
    lookup? key ((other, w) :: es) = if key.same other then some w else lookup? key es := by
  rw [lookup?, List.find?_cons]
  cases key.same other <;> rfl

theorem lookup?_insert_self (name : String) (v : Value) (es : List (Value × Value)) :
    lookup? (text name) (insert (text name) v es) = some v := by
  induction es with
  | nil => rw [insert, lookup?_cons, if_pos ((same_text name _).mpr rfl)]
  | cons e es ih =>
    obtain ⟨key, w⟩ := e
    rw [insert]
    split
    · rename_i found
      rw [lookup?_cons, if_pos found]
    · rename_i other
      rw [lookup?_cons, if_neg other, ih]

theorem lookup?_insert_other {other : String} (ne : other ≠ name) (v : Value)
    (es : List (Value × Value)) :
    lookup? (text other) (insert (text name) v es) = lookup? (text other) es := by
  have apart : ¬ (text other).same (text name) = true := by
    rw [same_text, text.injEq]
    exact Ne.symm ne
  induction es with
  | nil => rw [insert, lookup?_cons, if_neg apart]
  | cons e es ih =>
    obtain ⟨key, w⟩ := e
    rw [insert]
    split
    · rename_i found
      rw [same_text] at found
      subst found
      rw [lookup?_cons, lookup?_cons, if_neg apart, if_neg apart]
    · rw [lookup?_cons, lookup?_cons, ih]

/-! ### Setting one after another -/

/-- Named values as entries. -/
def keyed (es : List (String × Value)) : List (Value × Value) := es.map (Prod.map text id)

theorem keyed_keys (es : List (String × Value)) :
    (keyed es).map Prod.fst = (es.map Prod.fst).map text := by
  rw [keyed, List.map_map, List.map_map]
  rfl

theorem distinct_concat (es : List (String × Value)) (e : String × Value) :
    distinct (keyed (es ++ [e])) = insert (text e.1) e.2 (distinct (keyed es)) := by
  rw [distinct, insertAll, keyed, List.map_append, List.foldl_append]
  rfl

theorem eraseDups_concat (names : List String) (name : String) :
    (names ++ [name]).eraseDups =
      if name ∈ names then names.eraseDups else names.eraseDups ++ [name] := by
  rw [List.eraseDups_append]
  split <;> simp [List.removeAll, List.eraseDups_cons, *]

/-- Every name is there once, in the order of the first. -/
theorem distinct_keys (es : List (String × Value)) :
    (distinct (keyed es)).map Prod.fst = (es.map Prod.fst).eraseDups.map text := by
  induction es using List.reverseRecOn with
  | nil => rfl
  | append_singleton es e ih =>
    have known : text e.1 ∈ (distinct (keyed es)).map Prod.fst ↔ e.1 ∈ es.map Prod.fst := by
      rw [ih, List.mem_map_of_injective (fun _ _ same => by injection same), List.mem_eraseDups]
    rw [distinct_concat, List.map_append, List.map_singleton, eraseDups_concat]
    split
    · rename_i there
      rw [insert_present _ (known.mpr there), ih]
    · rename_i absent
      rw [insert_absent _ (mt known.mp absent), List.map_append, ih, List.map_append]
      rfl

/-- A name holds the last of its values. -/
theorem lookup?_distinct (es : List (String × Value)) (name : String) :
    lookup? (text name) (distinct (keyed es)) = es.reverse.lookup name := by
  induction es using List.reverseRecOn with
  | nil => rfl
  | append_singleton es e ih =>
    obtain ⟨last, v⟩ := e
    rw [distinct_concat, List.reverse_concat]
    by_cases own : name = last
    · subst own
      rw [lookup?_insert_self, List.lookup_cons_self]
    · rw [lookup?_insert_other own, ih, List.lookup_cons, beq_eq_false_iff_ne.mpr own]

theorem distinct_of_nodup {es : List (String × Value)} (nodup : (es.map Prod.fst).Nodup) :
    distinct (keyed es) = keyed es := by
  induction es using List.reverseRecOn with
  | nil => rfl
  | append_singleton es e ih =>
    rw [List.map_append, List.map_singleton, List.nodup_append] at nodup
    obtain ⟨before, -, apart⟩ := nodup
    have absent : text e.1 ∉ (keyed es).map Prod.fst := by
      rw [keyed_keys, List.mem_map_of_injective (fun _ _ same => by injection same)]
      exact fun there => apart _ there _ (List.mem_singleton_self _) rfl
    rw [distinct_concat, ih before, insert_absent _ absent, keyed, keyed, List.map_append]
    rfl

theorem eraseDups_length_le (names : List String) : names.eraseDups.length ≤ names.length := by
  induction names using List.reverseRecOn with
  | nil => exact Nat.le_refl _
  | append_singleton names name ih =>
    rw [eraseDups_concat, List.length_append]
    split
    · exact Nat.le_add_right_of_le ih
    · rw [List.length_append]
      exact Nat.add_le_add_right ih _

theorem eraseDups_length_eq (names : List String) :
    names.eraseDups.length = names.length ↔ names.Nodup := by
  induction names using List.reverseRecOn with
  | nil => exact ⟨fun _ => List.nodup_nil, fun _ => rfl⟩
  | append_singleton names name ih =>
    have fewer := eraseDups_length_le names
    have apart : (names ++ [name]).Nodup ↔ name ∉ names ∧ names.Nodup := by
      rw [← List.concat_eq_append, List.nodup_concat]
    rw [eraseDups_concat, apart, List.length_append, List.length_singleton]
    split
    · rename_i there
      exact ⟨fun same => by omega, fun ⟨absent, _⟩ => (absent there).elim⟩
    · rename_i absent
      rw [List.length_append, List.length_singleton, Nat.add_right_cancel_iff, ih]
      exact ⟨fun nodup => ⟨absent, nodup⟩, And.right⟩

end TableQuery.Value
