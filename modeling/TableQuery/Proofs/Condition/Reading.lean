import TableQuery.Proofs.Condition.Marks

/-!
# Reading conditions

A condition is read with the precedence of its operators: `NOT` before `AND`, `AND` before `OR`. It
is a sum of products of factors, and a factor is an atom, the negation of a factor, or a sum in
brackets. The reader goes through the marks with one level for each open bracket. `read?_and` says
how two conditions with `AND` between them are read: the last product of the first and the first
product of the second become one, and everything else stays as it is.
-/

namespace TableQuery.Condition

/-- An atom is known by its marks. -/
inductive Factor where
  | atom (ms : List Mark)
  | not (f : Factor)
  | group (sum : List (List Factor))

abbrev Product := List Factor

/-- Products with `OR` between them. -/
abbrev Expression := List Product

/-! ### The marks of what was read -/

mutual

def Factor.marks : Factor → List Mark
  | .atom ms => ms
  | .not f => .keyword .not :: f.marks
  | .group sum => .opening :: (marksOfSum sum ++ [.closing])

def marksOfProduct : List Factor → List Mark
  | [] => []
  | [f] => f.marks
  | f :: g :: fs => f.marks ++ .keyword .and :: marksOfProduct (g :: fs)

def marksOfSum : List (List Factor) → List Mark
  | [] => []
  | [p] => marksOfProduct p
  | p :: q :: ps => marksOfProduct p ++ .keyword .or :: marksOfSum (q :: ps)

end

/-! ### The reader -/

inductive Bracket where
  | round
  | case
  deriving DecidableEq

/-- What has been read of an operand: of an atom its marks, the brackets that are open in it, and
whether it waits for the `AND` of a `BETWEEN`. -/
inductive Operand where
  | missing
  | atom (ms : List Mark) (brackets : List Bracket) (range : Bool)
  | group (sum : Expression)

/-- What has been read since a bracket was opened. -/
structure Level where
  sums : Expression := []
  product : Product := []
  nots : Nat := 0
  operand : Operand := .missing

def negated (f : Factor) : Nat → Factor
  | 0 => f
  | n + 1 => .not (negated f n)

namespace Operand

def factor? : Operand → Option Factor
  | .atom ms [] false => some (.atom ms)
  | .group sum => some (.group sum)
  | _ => none

/-- An atom goes on with a mark. In brackets everything belongs to it. -/
def extend (ms : List Mark) (brackets : List Bracket) (range : Bool) (m : Mark) : Option Operand :=
  match m, brackets with
  | .opening, _ => some (.atom (ms ++ [m]) (.round :: brackets) range)
  | .keyword .case, _ => some (.atom (ms ++ [m]) (.case :: brackets) range)
  | .closing, .round :: outer => some (.atom (ms ++ [m]) outer range)
  | .closing, _ => none
  | .keyword .done, .case :: outer => some (.atom (ms ++ [m]) outer range)
  | .keyword .between, [] => some (.atom (ms ++ [m]) [] true)
  | .keyword .and, [] => if range then some (.atom (ms ++ [m]) [] false) else none
  | .keyword .or, [] => none
  | _, _ => some (.atom (ms ++ [m]) brackets range)

/-- An operand goes on with a mark. A sum in brackets that goes on was the beginning of an atom. -/
def step : Operand → Mark → Option Operand
  | .missing, .keyword .and => none
  | .missing, .keyword .or => none
  | .missing, .keyword .not => none
  | .missing, .keyword .between => none
  | .missing, .opening => none
  | .missing, m => extend [] [] false m
  | .atom ms brackets range, m => extend ms brackets range m
  | .group sum, m => extend (Factor.group sum).marks [] false m

end Operand

namespace Level

def factor? (l : Level) : Option Factor := l.operand.factor?.map (negated · l.nots)

/-- The sum that a level comes to, if nothing is missing. -/
def sum? (l : Level) : Option Expression := l.factor?.map fun f => l.sums ++ [l.product ++ [f]]

def step (l : Level) (m : Mark) : Option Level :=
  match m, l.operand, l.factor? with
  | .keyword .and, _, some f => some { sums := l.sums, product := l.product ++ [f] }
  | .keyword .or, _, some f => some { sums := l.sums ++ [l.product ++ [f]] }
  | .keyword .not, .missing, _ => some { l with nots := l.nots + 1 }
  | m, o, _ => (o.step m).map fun o => { l with operand := o }

end Level

/-- A bracket where an operand is missing. -/
def Level.opens (l : Level) (m : Mark) : Bool :=
  match m, l.operand with
  | .opening, .missing => true
  | _, _ => false

/-- The sum of a level that a bracket closes. -/
def Level.closes? (l : Level) (m : Mark) : Option Expression :=
  match m with
  | .closing => l.sum?
  | _ => none

/-- Goes on with a mark. A bracket where an operand is missing opens a level, and a bracket behind a
level with nothing missing closes it. -/
def step : List Level → Mark → Option (List Level)
  | [], _ => none
  | [l], m => if l.opens m then some [{}, l] else (l.step m).map ([·])
  | l :: o :: outer, m =>
    if l.opens m then some ({} :: l :: o :: outer)
    else
      match l.closes? m with
      | some sum => some ({ o with operand := .group sum } :: outer)
      | none => (l.step m).map (· :: o :: outer)

def finish : List Level → Option Expression
  | [l] => l.sum?
  | _ => none

/-- The sum that marks are read as. -/
def sumOf (ms : List Mark) : Option Expression := (ms.foldlM step [{}]).bind finish

/-- The sum that a text is read as, if it is a condition. -/
def read? (text : String) : Option Expression := (marks? text).bind sumOf

/-! ### One mark -/

/-- A mark that neither opens a level nor closes one is for the level that is open. -/
theorem step_same {l l' : Level} {m : Mark} (opens : l.opens m = false)
    (closes : l.closes? m = none) (next : l.step m = some l') (outer : List Level) :
    step (l :: outer) m = some (l' :: outer) := by
  cases outer with
  | nil =>
    rw [step, opens, next]
    rfl
  | cons o outer =>
    rw [step, opens, closes, next]
    rfl

theorem step_not {l : Level} (missing : l.operand = .missing) (outer : List Level) :
    step (l :: outer) (.keyword .not) = some ({ l with nots := l.nots + 1 } :: outer) := by
  refine step_same rfl rfl ?_ outer
  unfold Level.step
  rw [missing]

theorem step_and {l : Level} {f : Factor} (complete : l.factor? = some f) (outer : List Level) :
    step (l :: outer) (.keyword .and) =
      some ({ sums := l.sums, product := l.product ++ [f] } :: outer) := by
  refine step_same rfl rfl ?_ outer
  unfold Level.step
  rw [complete]

theorem step_or {l : Level} {f : Factor} (complete : l.factor? = some f) (outer : List Level) :
    step (l :: outer) (.keyword .or) =
      some ({ sums := l.sums ++ [l.product ++ [f]] } :: outer) := by
  refine step_same rfl rfl ?_ outer
  unfold Level.step
  rw [complete]

theorem step_opening {l : Level} (missing : l.operand = .missing) (outer : List Level) :
    step (l :: outer) .opening = some ({} :: l :: outer) := by
  have opens : l.opens .opening = true := by
    unfold Level.opens
    rw [missing]
  cases outer with
  | nil =>
    rw [step, opens]
    rfl
  | cons o outer =>
    rw [step, opens]
    rfl

theorem step_closing {l : Level} {e : Expression} (complete : l.sum? = some e) (o : Level)
    (outer : List Level) :
    step (l :: o :: outer) .closing = some ({ o with operand := .group e } :: outer) := by
  have opens : l.opens .closing = false := rfl
  have closes : l.closes? .closing = some e := complete
  rw [step, opens, closes]
  rfl

/-! ### Operands -/

/-- Marks that an operand with nothing missing does not go on with. -/
def Mark.ends : Mark → Bool
  | .closing => true
  | .keyword .and => true
  | .keyword .or => true
  | _ => false

namespace Operand

theorem step_complete {o : Operand} {f : Factor} (complete : o.factor? = some f) {m : Mark}
    (ends : m.ends = true) : o.step m = none := by
  have ended (ms : List Mark) : extend ms [] false m = none := by
    cases m with
    | closing => rfl
    | keyword k => cases k <;> first | rfl | cases ends
    | _ => cases ends
  cases o with
  | missing => cases complete
  | group sum => exact ended _
  | atom ms brackets range =>
    cases brackets with
    | nil =>
      cases range with
      | false => exact ended ms
      | true => cases complete
    | cons b brackets => cases complete

end Operand

/-- A mark that an operand goes on with changes nothing else. -/
theorem step_operand {l : Level} {m : Mark} {o : Operand} (goes : l.operand.step m = some o)
    (outer : List Level) : step (l :: outer) m = some ({ l with operand := o } :: outer) := by
  have incomplete (ends : m.ends = true) : l.operand.factor? = none := by
    cases complete : l.operand.factor? with
    | none => rfl
    | some f =>
      rw [Operand.step_complete complete ends] at goes
      cases goes
  have opens : l.opens m = false := by
    unfold Level.opens
    split
    · rename_i missing
      rw [missing] at goes
      cases goes
    · rfl
  have closes : l.closes? m = none := by
    unfold Level.closes?
    split
    · rw [Level.sum?, Level.factor?, incomplete rfl]
      rfl
    · rfl
  have next : l.step m = some { l with operand := o } := by
    unfold Level.step
    split
    · rename_i complete
      rw [Level.factor?, incomplete rfl] at complete
      cases complete
    · rename_i complete
      rw [Level.factor?, incomplete rfl] at complete
      cases complete
    · rename_i missing
      rw [missing] at goes
      cases goes
    · rw [goes]
      rfl
  exact step_same opens closes next outer

theorem foldlM_operand {ms : List Mark} {l : Level} {o : Operand}
    (goes : ms.foldlM Operand.step l.operand = some o) (outer : List Level) :
    ms.foldlM step (l :: outer) = some ({ l with operand := o } :: outer) := by
  induction ms generalizing l with
  | nil =>
    cases goes
    rfl
  | cons m ms ih =>
    obtain ⟨next, first, rest⟩ := Option.bind_eq_some_iff.mp goes
    rw [List.foldlM_cons, step_operand first]
    exact ih (l := { l with operand := next }) rest

/-- Marks that are one operand from the first to the last. -/
def IsAtom (ms : List Mark) : Prop := ms.foldlM Operand.step .missing = some (.atom ms [] false)

theorem sumOf_atom {ms : List Mark} (atom : IsAtom ms) : sumOf ms = some [[.atom ms]] := by
  unfold sumOf
  rw [foldlM_operand (l := {}) atom []]
  rfl

/-! ### Reading behind what was read before -/

/-- A sum behind products and the factors of one that goes on. -/
def behind (sums : Expression) (product : Product) : Expression → Expression
  | [] => sums ++ [product]
  | p :: ps => sums ++ (product ++ p) :: ps

variable {sums : Expression} {product : Product}

/-- A level as it is when its marks come behind others. -/
def Level.behind (sums : Expression) (product : Product) (l : Level) : Level :=
  match l.sums with
  | [] => { l with sums := sums, product := product ++ l.product }
  | p :: ps => { l with sums := sums ++ (product ++ p) :: ps }

/-- Levels as they are when their marks come behind others, which the last of them goes on with. -/
def levelsBehind (sums : Expression) (product : Product) : List Level → List Level
  | [] => []
  | [l] => [l.behind sums product]
  | l :: o :: outer => l :: levelsBehind sums product (o :: outer)

namespace Level

theorem behind_operand (l : Level) : (l.behind sums product).operand = l.operand := by
  rcases l with ⟨_ | ⟨p, ps⟩, product', nots, operand⟩ <;> rfl

theorem behind_factor? (l : Level) : (l.behind sums product).factor? = l.factor? := by
  rcases l with ⟨_ | ⟨p, ps⟩, product', nots, operand⟩ <;> rfl

theorem behind_opens (l : Level) (m : Mark) : (l.behind sums product).opens m = l.opens m := by
  unfold opens
  rw [behind_operand]

theorem behind_with (l : Level) (o : Operand) :
    ({ l with operand := o } : Level).behind sums product =
      { l.behind sums product with operand := o } := by
  rcases l with ⟨_ | ⟨p, ps⟩, product', nots, operand⟩ <;> rfl

theorem behind_sum? (l : Level) :
    (l.behind sums product).sum? = l.sum?.map (Condition.behind sums product) := by
  unfold sum?
  rw [behind_factor?, Option.map_map]
  congr 1
  funext f
  rcases l with ⟨_ | ⟨p, ps⟩, product', nots, operand⟩
  · simp [Level.behind, Condition.behind]
  · simp [Level.behind, Condition.behind]

theorem behind_step (l : Level) (m : Mark) :
    (l.behind sums product).step m = (l.step m).map (Level.behind sums product) := by
  unfold step
  rw [behind_operand, behind_factor?]
  rcases l with ⟨_ | ⟨p, ps⟩, product', nots, operand⟩
  · dsimp only
    split
    · simp [Level.behind]
    · simp [Level.behind]
    · rfl
    · rw [Option.map_map]
      rfl
  · dsimp only
    split
    · simp [Level.behind]
    · simp [Level.behind]
    · rfl
    · rw [Option.map_map]
      rfl

end Level

/-- What comes behind others is read as it is by itself, and goes on with them. -/
theorem step_behind (levels : List Level) (m : Mark) :
    step (levelsBehind sums product levels) m =
      (step levels m).map (levelsBehind sums product) := by
  match levels with
  | [] => rfl
  | [l] =>
    rw [levelsBehind, step, step, Level.behind_opens, Level.behind_step]
    split
    · rfl
    · rw [Option.map_map, Option.map_map]
      rfl
  | [l, o] =>
    rw [levelsBehind, levelsBehind, step, step]
    split
    · rfl
    · split
      · rename_i sum closed
        rw [Option.map_some, levelsBehind]
        exact congrArg (fun l => some [l]) (Level.behind_with o (.group sum)).symm
      · rw [Option.map_map]
        rfl
  | l :: o :: o' :: outer =>
    rw [levelsBehind, levelsBehind, step, step]
    split
    · rfl
    · split
      · rfl
      · rw [Option.map_map]
        rfl

theorem foldlM_behind (ms : List Mark) (levels : List Level) :
    ms.foldlM step (levelsBehind sums product levels) =
      (ms.foldlM step levels).map (levelsBehind sums product) := by
  induction ms generalizing levels with
  | nil => rfl
  | cons m ms ih =>
    rw [List.foldlM_cons, List.foldlM_cons, step_behind]
    cases step levels m with
    | none => rfl
    | some levels' => exact ih levels'

theorem finish_behind (levels : List Level) :
    finish (levelsBehind sums product levels) =
      (finish levels).map (behind sums product) := by
  match levels with
  | [] => rfl
  | [l] => exact l.behind_sum?
  | [l, o] => rfl
  | l :: o :: o' :: outer => rfl

/-! ### `AND` between two conditions -/

/-- A sum and then another with `AND` between their texts. -/
def glue : Expression → Expression → Expression
  | [], e => e
  | [p], e => behind [] p e
  | p :: q :: ps, e => p :: glue (q :: ps) e

theorem glue_last (sums : Expression) (product : Product) (e : Expression) :
    glue (sums ++ [product]) e = behind sums product e := by
  induction sums with
  | nil => rfl
  | cons p sums ih =>
    have next : glue (p :: (sums ++ [product])) e = p :: glue (sums ++ [product]) e := by
      cases sums <;> rfl
    rw [List.cons_append, next, ih]
    cases e <;> rfl

theorem sumOf_eq_some {ms : List Mark} {e : Expression} (read : sumOf ms = some e) :
    ∃ l f, ms.foldlM step [{}] = some [l] ∧ l.factor? = some f ∧
      e = l.sums ++ [l.product ++ [f]] := by
  obtain ⟨levels, folded, finished⟩ := Option.bind_eq_some_iff.mp read
  match levels with
  | [] => cases finished
  | [l] =>
    obtain ⟨f, found, rfl⟩ := Option.map_eq_some_iff.mp finished
    exact ⟨l, f, folded, found, rfl⟩
  | l :: o :: outer => cases finished

theorem read?_ne_nil {s : String} {e : Expression} (read : read? s = some e) : e ≠ [] := by
  obtain ⟨ms, -, summed⟩ := Option.bind_eq_some_iff.mp read
  obtain ⟨l, f, -, -, rfl⟩ := sumOf_eq_some summed
  exact List.append_ne_nil_of_right_ne_nil _ (List.cons_ne_nil _ _)

theorem sumOf_and {ms ms' : List Mark} {e : Expression} (read : sumOf ms = some e) :
    sumOf (ms ++ .keyword .and :: ms') = (sumOf ms').map (glue e) := by
  obtain ⟨l, f, folded, found, rfl⟩ := sumOf_eq_some read
  -- Behind the `AND` there is one level, which goes on with the products that are complete.
  have after : step [l] (.keyword .and) =
      some (levelsBehind l.sums (l.product ++ [f]) [{}]) := by
    rw [step_and found]
    simp [levelsBehind, Level.behind]
  have glued (e' : Expression) :
      glue (l.sums ++ [l.product ++ [f]]) e' = behind l.sums (l.product ++ [f]) e' :=
    glue_last _ _ _
  unfold sumOf
  rw [List.foldlM_append, folded]
  show ((step [l] (.keyword .and)).bind fun levels => ms'.foldlM step levels).bind finish = _
  rw [after]
  show (ms'.foldlM step (levelsBehind _ _ [{}])).bind finish = _
  rw [foldlM_behind, Option.bind_map, Option.map_bind]
  congr 1
  funext levels
  rw [Function.comp_apply, finish_behind]
  congr 1
  funext e'
  exact (glued e').symm

/-- Two conditions with `AND` between them are read as the two, with the last product of the first
and the first product of the second in one. -/
theorem read?_and {s t : String} {e : Expression} (read : read? s = some e) :
    read? (s ++ " AND " ++ t) = (read? t).map (glue e) := by
  obtain ⟨ms, marks, summed⟩ := Option.bind_eq_some_iff.mp read
  have text : s ++ " AND " ++ t = s ++ " " ++ ("AND" ++ " " ++ t) := by
    simp only [String.append_assoc]
    rfl
  have word : marks? "AND" = some [.keyword .and] := by decide
  unfold read?
  rw [text, marks?_blank marks, marks?_blank word, Option.map_map]
  cases marks? t with
  | none => rfl
  | some ms' => exact sumOf_and summed

end TableQuery.Condition
