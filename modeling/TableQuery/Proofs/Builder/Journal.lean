import TableQuery.Proofs.Builder.Gate
import TableQuery.Proofs.Builder.Order

/-!
# What calls tell the log

A call tells the log of a misuse that it makes the builder record, and of every statement that it
hands over, and of nothing else. `Tells` says so of one part of a call; parts that follow one another
are put together by `Tells.trans`. The main lemmas are `tells_start`, for what a terminal call does
before it waits, and `tells_counted`, for what a paginated call does after its count.
-/

namespace TableQuery

/-- What is said of a statement that is handed over. -/
def Statement.execution (table : Value) (s : Statement) : Event :=
  .executing s.kind table s.values.length

/-- A statement that begins with the keyword of its kind. -/
def Statement.Headed (s : Statement) : Prop := ∃ rest, s.sql = s.kind.keyword ++ " " ++ rest

def Event.isExecution : Event → Bool
  | .executing .. => true
  | _ => false

def Event.isRejection : Event → Bool
  | .rejected .. => true
  | _ => false

/-- What builders tell the log, and nobody else. -/
def Event.ofBuilder (e : Event) : Bool := e.isExecution || e.isRejection

/-- A channel that leaves it to the builders to tell the log of executions and rejected clauses. -/
def Channel.Quiet {σ : Type} (send : Channel σ) : Prop :=
  ∀ world sql values, ∀ e ∈ (send world sql values).events, e.ofBuilder = false

theorem Script.quiet : Channel.Quiet Script.channel := by
  intro script sql values e told
  cases script <;> cases told

def Leg.statement? : Leg → Option Statement
  | .done _ => none
  | .send s _ => some s

def Opening.statement? : Opening → Option Statement
  | .leg l => l.statement?
  | .counting s _ _ => some s

namespace Builder

variable {b b' : Builder}

/-- The misuse that is recorded in a builder and was not in another. -/
def gained (b b' : Builder) : List Misuse :=
  match b.misuse with
  | some _ => []
  | none => b'.misuse.toList

/-- What a part of a call tells the log that makes one builder of another and hands over a
statement. -/
structure Tells (b b' : Builder) (sent : Option Statement) (es : List Event) : Prop where
  becomes : b.Becomes b'
  headed : ∀ s, sent = some s → s.Headed
  events : es = (b.gained b').map (.rejected b.table) ++ sent.toList.map (·.execution b.table)

/-! ### Reading the log -/

theorem Tells.executions {sent : Option Statement} {es : List Event} (tells : b.Tells b' sent es) :
    es.filter Event.isExecution = sent.toList.map (·.execution b.table) := by
  have rejected : (b.gained b').filter (Event.isExecution ∘ .rejected b.table) = [] :=
    List.filter_eq_nil_iff.mpr fun m _ told => by cases told
  have executing : sent.toList.filter (Event.isExecution ∘ (·.execution b.table)) = sent.toList :=
    List.filter_eq_self.mpr fun s _ => rfl
  rw [tells.events, List.filter_append, List.filter_map, List.filter_map, rejected, executing]
  rfl

theorem Tells.rejections {sent : Option Statement} {es : List Event} (tells : b.Tells b' sent es) :
    es.filter Event.isRejection = (b.gained b').map (.rejected b.table) := by
  have rejected : (b.gained b').filter (Event.isRejection ∘ .rejected b.table) = b.gained b' :=
    List.filter_eq_self.mpr fun m _ => rfl
  have executing : sent.toList.filter (Event.isRejection ∘ (·.execution b.table)) = [] :=
    List.filter_eq_nil_iff.mpr fun s _ told => by cases told
  rw [tells.events, List.filter_append, List.filter_map, List.filter_map, rejected, executing]
  exact List.append_nil _

theorem Tells.ofBuilder {sent : Option Statement} {es : List Event} (tells : b.Tells b' sent es) :
    es.filter Event.ofBuilder = es := by
  refine List.filter_eq_self.mpr fun e told => ?_
  rw [tells.events] at told
  rcases List.mem_append.mp told with rejected | executing
  · obtain ⟨m, -, rfl⟩ := List.mem_map.mp rejected
    rfl
  · obtain ⟨s, -, rfl⟩ := List.mem_map.mp executing
    rfl

/-! ### Parts that follow one another -/

theorem gained_of_misuse_eq (same : b'.misuse = b.misuse) : b.gained b' = [] := by
  unfold gained
  rw [same]
  cases b.misuse <;> rfl

theorem gained_trans {b'' : Builder} (first : b.Becomes b') (later : b'.Becomes b'') :
    b.gained b'' = b.gained b' ++ b'.gained b'' := by
  unfold gained
  cases before : b.misuse with
  | some m => rw [first.misuse before, List.append_nil]
  | none =>
    cases between : b'.misuse with
    | none => rfl
    | some m => rw [later.misuse between, List.append_nil]

theorem Tells.trans {b'' : Builder} {sent : Option Statement} {es es' : List Event}
    (first : b.Tells b' none es) (later : b'.Tells b'' sent es') : b.Tells b'' sent (es ++ es') := by
  refine ⟨first.becomes.trans later.becomes, later.headed, ?_⟩
  rw [first.events, later.events, gained_trans first.becomes later.becomes, first.becomes.table,
    List.map_append, Option.toList_none, List.map_nil, List.append_nil, List.append_assoc]

theorem Tells.silent (b : Builder) : b.Tells b none [] := by
  refine ⟨.same, nofun, ?_⟩
  rw [gained_of_misuse_eq rfl]
  rfl

/-! ### Clause calls -/

theorem tells_call {c : ClauseCall} {es : List Event} (called : b.call c = .ok (b', es)) :
    b.Tells b' none es := by
  refine ⟨Becomes.same.called called, nofun, ?_⟩
  rw [Option.toList_none, List.map_nil, List.append_nil]
  unfold call at called
  split at called
  · rename_i judged
    cases called
    rw [gained_of_misuse_eq (judge_grows judged).misuse]
    rfl
  · rename_i m judged
    have recorded := Except.ok.inj called
    unfold record at recorded
    split at recorded
    · cases recorded
      rw [gained_of_misuse_eq rfl]
      rfl
    · rename_i valid
      cases recorded
      unfold gained
      rw [valid]
      rfl
  · cases called

theorem tells_callAll {cs : List ClauseCall} {es : List Event}
    (called : b.callAll cs = .ok (b', es)) : b.Tells b' none es := by
  induction cs generalizing b es with
  | nil =>
    cases called
    exact .silent _
  | cons c cs ih =>
    obtain ⟨⟨b₁, es₁⟩, first, called⟩ := bind_eq_ok.mp called
    obtain ⟨⟨b₂, es₂⟩, rest, same⟩ := bind_eq_ok.mp called
    cases same
    exact (tells_call first).trans (ih rest)

/-! ### Statements -/

theorem headed_append {kind : Kind} {head more : String} (rest : String) (values : List Value)
    (keyword : head = kind.keyword ++ " " ++ more) :
    Statement.Headed ⟨head ++ rest, values, kind⟩ := by
  refine ⟨more ++ rest, ?_⟩
  rw [keyword, String.append_assoc]

theorem headed_compileSelect {fields : Value} {s : Statement}
    (compiled : b.compileSelect fields = .ok s) : s.Headed := by
  obtain ⟨-, -, -, limit, offset, columns, names, -, -, -, -, rfl⟩ := compileSelect_eq_ok.mp compiled
  have keyword : "SELECT " = Kind.keyword .select ++ " " ++ "" := by decide
  delta selectText
  simp only [String.append_assoc]
  exact headed_append _ _ keyword

theorem headed_compileInsert {data upsert : Value} {s : Statement}
    (compiled : b.compileInsert data upsert = .ok s) : s.Headed := by
  obtain ⟨-, -, -, set, -, rfl⟩ := compileInsert_eq_ok.mp compiled
  have keyword : "INSERT INTO " = Kind.keyword .insert ++ " " ++ "INTO " := by decide
  delta insertText
  simp only [String.append_assoc]
  exact headed_append _ _ keyword

theorem headed_compileUpdate {data : Value} {s : Statement}
    (compiled : b.compileUpdate data = .ok s) : s.Headed := by
  obtain ⟨-, -, -, set, -, rfl⟩ := compileUpdate_eq_ok.mp compiled
  have keyword : "UPDATE " = Kind.keyword .update ++ " " ++ "" := by decide
  delta updateText
  simp only [String.append_assoc]
  exact headed_append _ _ keyword

theorem headed_compileDelete {s : Statement} (compiled : b.compileDelete = .ok s) : s.Headed := by
  obtain ⟨-, -, rfl⟩ := compileDelete_eq_ok.mp compiled
  have keyword : "DELETE FROM " = Kind.keyword .delete ++ " " ++ "FROM " := by decide
  simp only [String.append_assoc]
  exact headed_append _ _ keyword

theorem headed_compile {t : Terminal} {s : Statement} (compiled : t.compile b = .ok s) :
    s.Headed := by
  cases t with
  | create data upsert => exact headed_compileInsert compiled
  | update data => exact headed_compileUpdate compiled
  | delete => exact headed_compileDelete compiled
  | _ => exact headed_compileSelect compiled

/-! ### Handing over -/

theorem tells_hand {s : Except Fault Statement} (headed : ∀ s', s = .ok s' → s'.Headed)
    (b : Builder) (reading : Reading) :
    b.Tells (b.hand s reading).1 (b.hand s reading).2.2.statement? (b.hand s reading).2.1 := by
  unfold hand
  split
  · exact .silent b
  · rename_i s
    split
    · exact .silent b
    · refine ⟨Becomes.same.handed, ?_, ?_⟩
      · rintro s' ⟨⟩
        exact headed s rfl
      · have unchanged : b.gained { b with executed := true } = [] := gained_of_misuse_eq rfl
        dsimp only
        rw [unchanged]
        rfl

theorem tells_handWith {compile : Builder → Except Fault Statement}
    (headed : ∀ b' s, compile b' = .ok s → s.Headed) (b : Builder) (clauses : List ClauseCall)
    (reading : Reading) :
    let r := b.handWith clauses compile reading
    b.Tells r.1 r.2.2.statement? r.2.1 := by
  unfold handWith
  split
  · exact .silent b
  · rename_i b' es called
    exact (tells_callAll called).trans (tells_hand (headed b') b' reading)

/-- The count of a paginated call goes out from a builder of its own, on the same table. -/
theorem tells_startPage (b : Builder) (size number : Value) :
    let r := b.startPage size number
    b.Tells r.1 r.2.2.statement? r.2.1 := by
  cases bounds : b.pageBounds size number with
  | error f =>
    have refused : b.startPage size number = (b, [], .leg (.done (.error f))) := by
      simp only [startPage, bounds]
    rw [refused]
    exact .silent b
  | ok asked =>
    have valid := (pageBounds_inv bounds).1
    by_cases fits : b.ScopeFits
    case neg =>
      rw [startPage_unwritable valid fits bounds]
      exact .silent b
    have counts : b.countStatement.Headed := headed_compileSelect (compileCount_scope valid fits)
    rw [startPage_counting valid fits bounds]
    refine ⟨.same, ?_, ?_⟩
    · rintro s ⟨⟩
      exact counts
    · rw [gained_of_misuse_eq rfl]
      rfl

theorem tells_start (b : Builder) (t : Terminal) :
    b.Tells (b.start t).1 (b.start t).2.2.statement? (b.start t).2.1 := by
  cases single : t.single? with
  | some reading =>
    rw [b.start_single single]
    exact tells_handWith (fun _ _ => headed_compile) b t.clauses reading
  | none =>
    obtain ⟨size, number, rfl⟩ := Terminal.single?_eq_none.mp single
    exact b.tells_startPage size number

theorem tells_counted (b : Builder) (size number : Nat) (reply : Except Fault Value) :
    let r := b.counted size number reply
    b.Tells r.1 r.2.2.statement? r.2.1 := by
  unfold counted
  split
  · exact .silent b
  · exact tells_handWith (fun _ _ => headed_compileSelect) b _ _

end Builder

end TableQuery
