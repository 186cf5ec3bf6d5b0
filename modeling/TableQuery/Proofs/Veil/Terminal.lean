import TableQuery.Proofs.Builder.Terminal
import TableQuery.Proofs.Veil.Builder

/-!
# Veiled statements and terminal calls

What a builder compiles has a text that does not depend on the values bound, and a terminal call
sends that text, logs it and reads its reply in the same way. `start_veil` is the beginning of a
call and `counted_veil` what follows the count of a paginated call.
-/

namespace TableQuery.Builder

/-! ### Compiling -/

theorem check_veil (b : Builder) (kind : Kind) : b.veil.check kind = b.check kind := by
  simp only [check, veil_misuse, present_veil]

theorem writeHead_veil (b : Builder) (words : String) : b.veil.writeHead words = b.writeHead words :=
  rfl

theorem writeOrder_veil (b : Builder) : b.veil.writeOrder = b.writeOrder := rfl

theorem writeWhere_veil (b : Builder) : b.veil.writeWhere = b.writeWhere := by
  simp only [writeWhere, whereText, veil, List.map_map]
  rfl

theorem compileSelect_veil (b : Builder) (fields : Value) :
    b.veil.compileSelect fields = (b.compileSelect fields).map Statement.veil := by
  have columns : b.veil.columns fields = b.columns fields := rfl
  simp only [compileSelect, check_veil, writeOrder_veil, writeHead_veil, writeWhere_veil, veil_limit,
    veil_offset, columns]
  iterate 8 refine bind_eq_map fun _ => ?_
  simp only [pure_eq_ok, map_ok, Statement.veil, ← Clause.allValues_veil]
  rfl

theorem assignments_veil (data : Value) (name : Value → Except Fault Value) :
    assignments data.veilEntries name = (assignments data name).map Clause.veil := by
  simp only [assignments, Value.items?_veilEntries]
  iterate 3 refine bind_eq_map fun _ => ?_
  cases data with
  | map es => simp [Value.veilEntries, Clause.veil, Value.veil, Function.comp_def]
  | _ => rfl

theorem compileInsert_veil (b : Builder) (data upsert : Value) :
    b.veil.compileInsert data.veilEntries upsert =
      (b.compileInsert data upsert).map Statement.veil := by
  simp only [compileInsert, check_veil, requireData, Value.truthy_veilEntries, assignments_veil,
    writeHead_veil]
  iterate 2 refine bind_eq_map fun _ => ?_
  cases assignments data .ok with
  | error f => rfl
  | ok set =>
    have once := Clause.allValues_veil [set]
    have twice := Clause.allValues_veil [set, set]
    simp only [List.map_cons, List.map_nil] at once twice
    rw [map_ok, ok_bind, ok_bind]
    refine bind_eq_map fun _ => ?_
    split
    · rw [twice]
      rfl
    · rw [once]
      rfl

theorem compileUpdate_veil (b : Builder) (data : Value) :
    b.veil.compileUpdate data.veilEntries = (b.compileUpdate data).map Statement.veil := by
  simp only [compileUpdate, check_veil, requireData, Value.truthy_veilEntries, veil_table,
    assignments_veil, writeHead_veil, writeWhere_veil]
  iterate 2 refine bind_eq_map fun _ => ?_
  cases assignments data (qualify b.table) with
  | error f => rfl
  | ok set =>
    have values := Clause.allValues_veil (set :: b.conditions)
    simp only [List.map_cons] at values
    rw [map_ok, ok_bind, ok_bind]
    iterate 2 refine bind_eq_map fun _ => ?_
    simp only [pure_eq_ok, map_ok, Statement.veil, ← values]
    rfl

theorem compileDelete_veil (b : Builder) :
    b.veil.compileDelete = b.compileDelete.map Statement.veil := by
  simp only [compileDelete, check_veil, writeHead_veil, writeWhere_veil]
  iterate 3 refine bind_eq_map fun _ => ?_
  simp only [pure_eq_ok, map_ok, Statement.veil, ← Clause.allValues_veil]
  rfl

/-! ### Terminal calls -/

end Builder

def Leg.veil : Leg → Leg
  | .done answer => .done answer
  | .send s reading => .send s.veil reading

def Opening.veil : Opening → Opening
  | .leg l => .leg l.veil
  | .counting s size number => .counting s.veil size number

theorem Terminal.clauses_veil (t : Terminal) : t.veil.clauses = t.clauses.map ClauseCall.veil := by
  cases t <;> rfl

theorem Terminal.single?_veil (t : Terminal) : t.veil.single? = t.single? := by
  cases t <;> rfl

theorem Terminal.compile_veil (t : Terminal) (b : Builder) :
    t.veil.compile b.veil = (t.compile b).map Statement.veil := by
  cases t with
  | create data upsert => exact b.compileInsert_veil data upsert
  | update data => exact b.compileUpdate_veil data
  | delete => exact b.compileDelete_veil
  | _ => exact b.compileSelect_veil _

namespace Builder

theorem hand_veil (b : Builder) (s : Except Fault Statement) (reading : Reading) :
    b.veil.hand (s.map Statement.veil) reading =
      let r := b.hand s reading
      (r.1.veil, r.2.1, r.2.2.veil) := by
  cases s with
  | error f => rfl
  | ok s =>
    simp only [map_ok, hand, veil_executed]
    by_cases sent : b.executed
    · simp only [sent, if_true]
      rfl
    · simp only [sent, Statement.veil, Value.length_veil]
      rfl

/-- A veiled call that compiles veiled statements of veiled builders sends veiled statements. -/
theorem handWith_veil {compile compile' : Builder → Except Fault Statement}
    (veiled : ∀ b : Builder, compile' b.veil = (compile b).map Statement.veil) (b : Builder)
    (cs : List ClauseCall) (reading : Reading) :
    b.veil.handWith (cs.map ClauseCall.veil) compile' reading =
      let r := b.handWith cs compile reading
      (r.1.veil, r.2.1, r.2.2.veil) := by
  simp only [handWith, callAll_veil]
  cases b.callAll cs with
  | error f => rfl
  | ok r => simp only [map_ok, veiled, hand_veil]

theorem startPage_veil (b : Builder) (size number : Value) :
    b.veil.startPage size number =
      let r := b.startPage size number
      (r.1.veil, r.2.1, r.2.2.veil) := by
  have bounds : b.veil.pageBounds size number = b.pageBounds size number := rfl
  have counts : b.veil.scope.hand b.veil.scope.compileCount .count =
      let r := b.scope.hand b.scope.compileCount .count
      (r.1.veil, r.2.1, r.2.2.veil) := by
    have compiled : b.scope.veil.compileCount = b.scope.compileCount.map Statement.veil :=
      compileSelect_veil _ _
    rw [scope_veil, compiled, hand_veil]
  simp only [startPage, bounds, counts]
  cases b.pageBounds size number with
  | error m => rfl
  | ok p =>
    rcases b.scope.hand b.scope.compileCount .count with ⟨b', es, l⟩
    cases l <;> rfl

theorem start_veil (b : Builder) (t : Terminal) :
    b.veil.start t.veil =
      let r := b.start t
      (r.1.veil, r.2.1, r.2.2.veil) := by
  cases single : t.single? with
  | none =>
    obtain ⟨size, number, rfl⟩ := Terminal.single?_eq_none.mp single
    exact b.startPage_veil size number
  | some reading =>
    rw [b.start_single single, b.veil.start_single (t.single?_veil.trans single), t.clauses_veil,
      handWith_veil t.compile_veil]
    rfl

theorem counted_veil (b : Builder) (size number : Nat) (reply : Except Fault Value) :
    b.veil.counted size number reply =
      let r := b.counted size number reply
      (r.1.veil, r.2.1, r.2.2.veil) := by
  unfold counted
  cases reply.bind countIn with
  | error f => rfl
  | ok total =>
    exact b.handWith_veil (compileSelect_veil · .none)
      [.limit (.int size), .offset (.int (size * (number - 1)))] _

end TableQuery.Builder
