import TableQuery.Builder.Clause
import TableQuery.Builder.Compile
import TableQuery.Page

/-!
# Terminal calls

A terminal call commits the builder to a statement and waits for the channel. It is a value that
can be kept while it waits: `Builder.start` opens it, `Builder.counted` goes on after the count of
a paginated call, and `Reading.answer` reads what the channel replied to the last statement. The
types say that at most one statement is sent, or two by a paginated call.
-/

namespace TableQuery

inductive Terminal where
  | get
  | getFirst
  | find (id : Value)
  | getCount
  | create (data upsert : Value)
  | update (data : Value)
  | delete
  | getPaginated (size number : Value)

inductive Answer where
  | value (v : Value)
  | page (p : Page)

inductive Reading where
  | rows
  | firstRow
  | count
  | outcome
  | page (total : Int) (size number : Nat)

/-- What is left of a call: nothing but its answer, or one statement and the reading of its
reply. -/
inductive Leg where
  | done (answer : Except Fault Answer)
  | send (statement : Statement) (reading : Reading)

/-- How a call begins: with its only leg, or with the count of a paginated call. -/
inductive Opening where
  | leg (leg : Leg)
  | counting (statement : Statement) (size number : Nat)

/-- The number in the first row, under `count` or in the first place. -/
def countIn (reply : Value) : Except Fault Int := do
  match ← reply.first? with
  | .map es =>
    match Value.lookup? (.text "count") es with
    | some v => v.integer?
    | none => .error (.missingKey (.text "count"))
  | row => (← row.first?).integer?

def Reading.answer (reading : Reading) (reply : Value) : Except Fault Answer :=
  match reading with
  | .rows => do return .value (.list (← reply.items?))
  | .firstRow => do return .value ((← reply.items?).headD .none)
  | .count => do return .value (.int (← countIn reply))
  | .outcome => .ok (.value reply)
  | .page total size number => do
    return .page ⟨.int total, .int size, .int number, ← reply.items?⟩

def Reading.finish (reading : Reading) (reply : Except Fault Value) : Except Fault Answer := do
  reading.answer (← reply)

/-- The clauses that a call adds before it compiles. -/
def Terminal.clauses : Terminal → List ClauseCall
  | .getFirst => [.limit (.int 1)]
  | .find id => [.matching (.text "id") (.text "=") id, .limit (.int 1)]
  | _ => []

namespace Builder

def compileCount (b : Builder) : Except Fault Statement :=
  b.compileSelect (.tuple [.text "COUNT(*) AS count"])

/-- Hands a statement over, once in the life of a builder. -/
def hand (b : Builder) (s : Except Fault Statement) (reading : Reading) :
    Builder × List Event × Leg :=
  match s with
  | .error f => (b, [], .done (.error f))
  | .ok s =>
    if b.executed then (b, [], .done (.error (.misuse .executed)))
    else
      ({ b with executed := true }, [.executing s.kind b.table s.values.length], .send s reading)

def handWith (b : Builder) (clauses : List ClauseCall)
    (compile : Builder → Except Fault Statement) (reading : Reading) :
    Builder × List Event × Leg :=
  match b.callAll clauses with
  | .error f => (b, [], .done (.error f))
  | .ok (b', es) =>
    let (b'', es', leg) := b'.hand (compile b') reading
    (b'', es ++ es', leg)

/-- The size and number of a page that may be asked of a builder. A number that is not given is
one. -/
def pageBounds (b : Builder) (size number : Value) : Except Fault (Nat × Nat) :=
  match b.misuse with
  | some m => .error (.misuse m)
  | none =>
    if !size.truthy then .error (.misuse .noPageSize)
    else
      match size.count? with
      | none => .error (Misuse.badLimit size).fault
      | some n =>
        let number := number.orElse (.int 1)
        match number.count? with
        | none => .error (Misuse.badPage number).fault
        | some k =>
          if k = 0 then .error (Misuse.badPage number).fault
          else if b.limit.isSome || b.offset.isSome then .error (.misuse .boundsSet)
          else if b.executed then .error (.misuse .executed)
          else .ok (n, k)

/-- A paginated call first counts the scope on a builder of its own. -/
def startPage (b : Builder) (size number : Value) : Builder × List Event × Opening :=
  match b.pageBounds size number with
  | .error f => (b, [], .leg (.done (.error f)))
  | .ok (n, k) =>
    match b.scope.hand b.scope.compileCount .count with
    | (_, es, .done answer) => (b, es, .leg (.done answer))
    | (_, es, .send s _) => (b, es, .counting s n k)

def start (b : Builder) (t : Terminal) : Builder × List Event × Opening :=
  let only (r : Builder × List Event × Leg) : Builder × List Event × Opening :=
    (r.1, r.2.1, .leg r.2.2)
  match t with
  | .get => only (b.handWith t.clauses (·.compileSelect .none) .rows)
  | .getFirst => only (b.handWith t.clauses (·.compileSelect .none) .firstRow)
  | .find _ => only (b.handWith t.clauses (·.compileSelect .none) .firstRow)
  | .getCount => only (b.handWith t.clauses compileCount .count)
  | .create data upsert => only (b.handWith t.clauses (·.compileInsert data upsert) .outcome)
  | .update data => only (b.handWith t.clauses (·.compileUpdate data) .outcome)
  | .delete => only (b.handWith t.clauses compileDelete .outcome)
  | .getPaginated size number => b.startPage size number

/-- Goes on after the reply to the count: the bounded selection, or the fault of the count. -/
def counted (b : Builder) (size number : Nat) (reply : Except Fault Value) :
    Builder × List Event × Leg :=
  match reply.bind countIn with
  | .error f => (b, [], .done (.error f))
  | .ok total =>
    b.handWith [.limit (.int size), .offset (.int (size * (number - 1)))]
      (·.compileSelect .none) (.page total size number)

end Builder

end TableQuery
