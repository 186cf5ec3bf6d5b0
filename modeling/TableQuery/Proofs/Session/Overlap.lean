import TableQuery.Proofs.Session.Run

/-!
# Calls that overlap

Several tasks share the builders of a session. A call runs until it waits for the channel; other
calls may be made, on the same builder too, before the reply comes and the call goes on with the
builder as it is then. `Overlap.step` makes one move of such a run, and `step_moves` says what a
move can do.
-/

namespace TableQuery

/-! ### The parts of a call -/

/-- Where a call stands: it waits for the count of a page, it waits for the reply that it reads, or
it has ended. -/
inductive Stage where
  | counting (size number : Nat)
  | reading (reading : Reading)
  | ended (response : Response)

/-- What a call does without waiting: the builder that it leaves, and the statement that it hands
over. -/
structure Part where
  builder : Builder
  stage : Stage
  sent : Option Statement := none

namespace Builder

def legPart (b : Builder) (h : Handle) : Leg → Part
  | .done answer => { builder := b, stage := .ended (h.respond answer) }
  | .send s reading => { builder := b, stage := .reading reading, sent := some s }

def startPart (b : Builder) (h : Handle) (t : Terminal) : Part :=
  match b.start t with
  | (b, _, .leg leg) => b.legPart h leg
  | (b, _, .counting s size number) =>
    { builder := b, stage := .counting size number, sent := some s }

/-- The first part of a call. `next` is the number that a builder made by it has. -/
def callPart (b : Builder) (h : Handle) (next : Nat) (c : Call) : Part :=
  let stay (response : Response) : Part := { builder := b, stage := .ended response }
  match c with
  | .clause c =>
    match b.call c with
    | .ok (b, _) => { builder := b, stage := .ended (.object h b.misuse) }
    | .error f => stay (.fault f)
  | .buildSelect fields => stay (.ofCompiled (b.compileSelect fields))
  | .buildInsert data upsert => stay (.ofCompiled (b.compileInsert data upsert))
  | .buildUpdate data => stay (.ofCompiled (b.compileUpdate data))
  | .buildDelete => stay (.ofCompiled b.compileDelete)
  | .terminal t => b.startPart h t
  | .scope => stay (.object { builder := next } b.scope.misuse)
  | .table => stay (.tableName b.table)
  | .isValid => stay (.validity b.isValid)
  | .error => stay (.misuse b.misuse)

/-- The part of a call that follows a reply. -/
def replyPart (b : Builder) (h : Handle) (reply : Except Fault Value) : Stage → Option Part
  | .counting size number =>
    let r := b.counted size number reply
    some (r.1.legPart h r.2.2)
  | .reading reading =>
    some { builder := b, stage := .ended (h.respond (reading.finish reply)) }
  | .ended _ => none

end Builder

/-- The builders that a call adds to the session. -/
def Call.made (b : Builder) : Call → List Builder
  | .scope => [b.scope]
  | _ => []

/-! ### Runs -/

/-- A call that was begun. -/
structure Pending where
  handle : Handle
  stage : Stage

/-- A statement handed to the channel. A count goes out from a builder of the call's own, every
other statement from the builder itself. -/
structure Dispatch where
  call : Nat
  builder : Nat
  counts : Bool
  statement : Statement

/-- The builders and the calls by number, and the statements in the order in which they went. -/
structure Overlap where
  builders : List Builder
  calls : List Pending := []
  sent : List Dispatch := []

inductive Move where
  | call (h : Handle) (c : Call)
  | reply (call : Nat) (r : Except Fault Value)

def Stage.counts : Stage → Bool
  | .counting .. => true
  | _ => false

def Part.dispatches (p : Part) (call builder : Nat) : List Dispatch :=
  p.sent.toList.map (⟨call, builder, p.stage.counts, ·⟩)

namespace Overlap

/-- Begins a call on a builder. -/
def enter (o : Overlap) (h : Handle) (b : Builder) (c : Call) : Overlap :=
  let p := b.callPart h o.builders.length c
  { builders := o.builders.set h.builder p.builder ++ c.made b
    calls := o.calls ++ [⟨h, p.stage⟩]
    sent := o.sent ++ p.dispatches o.calls.length h.builder }

/-- Goes on with a call. -/
def goOn (o : Overlap) (n : Nat) (h : Handle) (p : Part) : Overlap :=
  { builders := o.builders.set h.builder p.builder
    calls := o.calls.set n ⟨h, p.stage⟩
    sent := o.sent ++ p.dispatches n h.builder }

/-- Makes a move. A call needs its builder and a reply a call that waits; what cannot be done
changes nothing. -/
def step (o : Overlap) : Move → Overlap
  | .call h c =>
    match o.builders[h.builder]? with
    | some b => o.enter h b c
    | none => o
  | .reply n r =>
    match o.calls[n]? with
    | some ⟨h, stage⟩ =>
      match (o.builders[h.builder]?).bind (·.replyPart h r stage) with
      | some p => o.goOn n h p
      | none => o
    | none => o

def run (o : Overlap) (ms : List Move) : Overlap := ms.foldl step o

theorem run_append (o : Overlap) (ms ms' : List Move) : o.run (ms ++ ms') = (o.run ms).run ms' :=
  List.foldl_append

/-- What every move keeps holds after every run. -/
theorem run_keeps {P : Overlap → Prop} (keeps : ∀ o m, P o → P (o.step m)) {o : Overlap} (holds : P o)
    (ms : List Move) : P (o.run ms) :=
  List.foldlRecOn ms step holds fun o held m _ => keeps o m held

theorem step_call {o : Overlap} {h : Handle} {b : Builder} (present : o.builders[h.builder]? = some b)
    (c : Call) : o.step (.call h c) = o.enter h b c := by
  simp only [step, present]

theorem step_reply {o : Overlap} {n : Nat} {h : Handle} {stage : Stage} {b : Builder} {p : Part}
    {r : Except Fault Value} (begun : o.calls[n]? = some ⟨h, stage⟩)
    (present : o.builders[h.builder]? = some b) (part : b.replyPart h r stage = some p) :
    o.step (.reply n r) = o.goOn n h p := by
  simp only [step, begun, present, Option.bind_some, part]

/-- A builder after one of the builders was replaced. -/
theorem builder_set {o : Overlap} {i : Nat} {b : Builder} (present : o.builders[i]? = some b)
    (j : Nat) (b' : Builder) (made : List Builder) :
    (o.builders.set j b' ++ made)[i]? = some (if j = i then b' else b) := by
  obtain ⟨inside, -⟩ := List.getElem?_eq_some_iff.mp present
  rw [List.getElem?_append_left (by rw [List.length_set]; exact inside), List.getElem?_set, present]
  by_cases own : j = i
  · subst own
    rw [if_pos rfl, if_pos inside, if_pos rfl]
  · rw [if_neg own, if_neg own]

/-- A move begins a call on a builder, goes on with one that waits, or changes nothing. -/
inductive Moves (o : Overlap) : Move → Overlap → Prop where
  | enter {h : Handle} {b : Builder} {c : Call} (present : o.builders[h.builder]? = some b) :
      Moves o (.call h c) (o.enter h b c)
  | goOn {n : Nat} {r : Except Fault Value} {h : Handle} {stage : Stage} {b : Builder} {p : Part}
      (begun : o.calls[n]? = some ⟨h, stage⟩) (present : o.builders[h.builder]? = some b)
      (part : b.replyPart h r stage = some p) : Moves o (.reply n r) (o.goOn n h p)
  | stay {m : Move} : Moves o m o

theorem step_moves (o : Overlap) (m : Move) : o.Moves m (o.step m) := by
  cases m with
  | call h c =>
    unfold step
    dsimp only
    split
    · rename_i b present
      exact .enter present
    · exact .stay
  | reply n r =>
    unfold step
    dsimp only
    split
    · rename_i h stage begun
      split
      · rename_i p goes
        obtain ⟨b, present, part⟩ := Option.bind_eq_some_iff.mp goes
        exact .goOn begun present part
      · exact .stay
    · exact .stay

end Overlap

end TableQuery
