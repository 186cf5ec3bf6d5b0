import TableQuery.Number.Rounded
import TableQuery.Text.CodePoint
import TableQuery.Value.Access
import TableQuery.Value.Writing

/-!
# Log templates

A template is text with directives: a percent sign, flags, a width, a precision and a mark that says
how the next argument is written. A directive can name an argument by its key. `Template.format`
fills a template in, and fails unless every argument finds its place. The result is a sequence of
code points, because a directive can write a surrogate.
-/

namespace TableQuery.Template

structure Flags where
  left : Bool := false
  plus : Bool := false
  blank : Bool := false
  alternate : Bool := false
  zero : Bool := false

structure Directive where
  flags : Flags
  width : Option Nat
  precision : Option Nat
  mark : Char

/-- The arguments that are still to be written: those of a row in their order, or a map with the
value that the next directive without a key takes. -/
inductive Supply where
  | row (values : List Value)
  | keyed (entries : List (Value × Value)) (current : Option Value)

def Supply.next : Supply → Except Fault (Value × Supply)
  | .row (v :: vs) => .ok (v, .row vs)
  | .keyed es (some v) => .ok (v, .keyed es none)
  | _ => .error (.shape .wrongType)

def Supply.select (key : String) : Supply → Except Fault Supply
  | .keyed es _ =>
    match Value.lookup? (.text key) es with
    | some v => .ok (.keyed es (some v))
    | none => .error (.missingKey (.text key))
  | .row _ => .error (.shape .wrongType)

def Supply.close : Supply → Except Fault Unit
  | .row (_ :: _) => .error (.shape .wrongType)
  | _ => .ok ()

/-! ### Reading a directive -/

/-- The text up to the bracket that closes `depth` open ones, and what follows it. -/
def takeKey (depth : Nat) (seen : List Char) : List Char → Except Fault (String × List Char)
  | [] => .error (.template .incompleteKey)
  | c :: rest =>
    if c == ')' then
      if depth ≤ 1 then .ok (String.ofList seen.reverse, rest)
      else takeKey (depth - 1) (c :: seen) rest
    else takeKey (if c == '(' then depth + 1 else depth) (c :: seen) rest

def takeSelection (supply : Supply) : List Char → Except Fault (Supply × List Char)
  | '(' :: rest =>
    match supply with
    | .row _ => .error (.shape .wrongType)
    | supply => do
      let (key, rest) ← takeKey 1 [] rest
      return (← supply.select key, rest)
  | cs => .ok (supply, cs)

def takeFlags (f : Flags) : List Char → Flags × List Char
  | '-' :: rest => takeFlags { f with left := true } rest
  | '+' :: rest => takeFlags { f with plus := true } rest
  | ' ' :: rest => takeFlags { f with blank := true } rest
  | '#' :: rest => takeFlags { f with alternate := true } rest
  | '0' :: rest => takeFlags { f with zero := true } rest
  | cs => (f, cs)

def takeNumber (limit : Nat) (fault : TemplateFault) (n : Nat) :
    List Char → Except Fault (Nat × List Char)
  | [] => .ok (n, [])
  | c :: rest =>
    match Text.asciiDigit? c with
    | none => .ok (n, c :: rest)
    | some d =>
      if n > (limit - d) / 10 then .error (.template fault)
      else takeNumber limit fault (n * 10 + d) rest

def widthLimit : Nat := Nat.pow 2 63 - 1

def precisionLimit : Nat := Nat.pow 2 31 - 1

def integerPrecisionLimit : Nat := precisionLimit - 3

/-- An integer that an argument gives in place of digits; truth values are zero and one. -/
def givenInteger (limit : Nat) (fault : TemplateFault) (supply : Supply) :
    Except Fault (Int × Supply) := do
  let (v, supply) ← supply.next
  let n ← match v with
    | .bool _ => v.integer?
    | .int _ => v.integer?
    | _ => .error (.shape .wrongType)
  if n < -((limit : Int) + 1) ∨ (limit : Int) < n then .error (.template fault)
  else return (n, supply)

/-- A width that an argument gives. The least integer has no positive counterpart and gives none. -/
def givenWidth (n : Int) : Option Nat := if n.natAbs ≤ widthLimit then some n.natAbs else none

def takeWidth (f : Flags) (supply : Supply) :
    List Char → Except Fault (Flags × Option Nat × Supply × List Char)
  | '*' :: rest => do
    let (n, supply) ← givenInteger widthLimit .widthOverflow supply
    return (if n < 0 then { f with left := true } else f, givenWidth n, supply, rest)
  | c :: rest =>
    match Text.asciiDigit? c with
    | none => .ok (f, none, supply, c :: rest)
    | some d => do
      let (n, rest) ← takeNumber widthLimit .tooWide d rest
      return (f, some n, supply, rest)
  | [] => .ok (f, none, supply, [])

def takePrecision (supply : Supply) : List Char → Except Fault (Option Nat × Supply × List Char)
  | '.' :: '*' :: rest => do
    let (n, supply) ← givenInteger precisionLimit .precisionOverflow supply
    return (some n.toNat, supply, rest)
  | '.' :: rest => do
    let (n, rest) ← takeNumber precisionLimit .tooPrecise 0 rest
    return (some n, supply, rest)
  | cs => .ok (none, supply, cs)

/-- Drops a mark of size, which has no meaning. -/
def dropSize : List Char → List Char
  | c :: rest => if c == 'h' || c == 'l' || c == 'L' then rest else c :: rest
  | [] => []

def takeDirective (supply : Supply) (cs : List Char) :
    Except Fault (Directive × Supply × List Char) := do
  let (supply, cs) ← takeSelection supply cs
  let (flags, cs) := takeFlags {} cs
  let (flags, width, supply, cs) ← takeWidth flags supply cs
  let (precision, supply, cs) ← takePrecision supply cs
  match dropSize cs with
  | [] => .error (.template .incomplete)
  | mark :: rest => return ({ flags, width, precision, mark }, supply, rest)

/-! ### Writing an argument -/

/-- An argument as it is to be written: its sign, the mark of its base, and the rest. Only numbers
are filled with zeros. -/
structure Piece where
  numeric : Bool := false
  negative : Bool := false
  base : List Char := []
  body : List Text.CodePoint

def Directive.sign (d : Directive) (p : Piece) : List Char :=
  if !p.numeric then []
  else if p.negative then ['-']
  else if d.flags.plus then ['+']
  else if d.flags.blank then [' ']
  else []

def requireStorable (n : Nat) : Except Fault Unit :=
  if storageLimit ≤ n then .error (.size .storage) else .ok ()

def Directive.fill (d : Directive) (p : Piece) : Except Fault (List Text.CodePoint) := do
  let head := Text.codePoints (d.sign p ++ p.base)
  let missing := d.width.getD 0 - (head.length + p.body.length)
  let filling (c : Char) : List Text.CodePoint := List.replicate missing (.char c)
  requireStorable missing
  if d.flags.left then return head ++ p.body ++ filling ' '
  else if d.flags.zero && p.numeric then return head ++ filling '0' ++ p.body
  else return filling ' ' ++ head ++ p.body

def Directive.text (d : Directive) (s : String) : Piece :=
  { body := Text.codePoints (match d.precision with
      | some n => s.toList.take n
      | none => s.toList) }

def baseOf (mark : Char) : Nat :=
  if mark == 'o' then 8 else if mark == 'x' || mark == 'X' then 16 else 10

def inCase (mark : Char) (cs : List Char) : List Char :=
  if mark.isUpper then cs.map Char.toUpper else cs

/-- The digits of an integer. Only decimal ones may be too many. -/
def Directive.digits (d : Directive) (i : Int) : Except Fault (List Char) :=
  if baseOf d.mark == 10 then (Value.writing [.int i] (Text.decimal i.natAbs)).map String.toList
  else .ok (Nat.toDigits (baseOf d.mark) i.natAbs)

def Directive.whole (d : Directive) (i : Int) : Except Fault Piece := do
  let least := d.precision.getD 0
  if integerPrecisionLimit < least then throw (.template .precisionTooLarge)
  let ds ← d.digits i
  requireStorable least
  return {
    numeric := true
    negative := i < 0
    base := if d.flags.alternate && baseOf d.mark != 10 then ['0', d.mark] else []
    body := Text.codePoints (inCase d.mark (List.replicate (least - ds.length) '0' ++ ds)) }

/-- The places of a double, six where no precision is given. The greatest precision leaves none
before an exponent, for which one more digit would be too many. -/
def Directive.places (d : Directive) : Nat :=
  if d.mark.toLower == 'e' && d.precision == some precisionLimit then 0 else d.precision.getD 6

def Directive.magnitude (d : Directive) (m : Nat) (e : Int) : Except Fault (List Char) := do
  let keep := d.flags.alternate
  if d.mark.toLower == 'g' && !keep then return Decimal.generalText keep d.places m e
  requireStorable d.places
  if d.mark.toLower == 'f' then return Decimal.fixedText keep d.places m e
  else if d.mark.toLower == 'e' then return Decimal.scientificText keep d.places m e
  else return Decimal.generalText keep d.places m e

def Directive.real (d : Directive) (x : Binary64) : Except Fault Piece := do
  let (negative, body) ← (match x with
    | .finite n m e => (d.magnitude m e).map fun cs => (n, cs)
    | .infinity n => .ok (n, "inf".toList)
    | .nan => .ok (false, "nan".toList) : Except Fault (Bool × List Char))
  return { numeric := true, negative, body := Text.codePoints (inCase d.mark body) }

/-- The integer that an integer mark writes: of a double its integer part, but none in octal or
hexadecimal. -/
def wholeOf (mark : Char) : Value → Except Fault Int
  | .bool b => .ok (if b then 1 else 0)
  | .int i => .ok i
  | .real x => if baseOf mark == 10 then (Value.real x).integer? else .error (.shape .wrongType)
  | _ => .error (.shape .wrongType)

def realOf (v : Value) : Except Fault Binary64 :=
  match v.number? with
  | some n => n.toReal.mapError .number
  | none => .error (.shape .wrongType)

def codePointOf (v : Value) : Except Fault Text.CodePoint :=
  let ofInt (i : Int) : Except Fault Text.CodePoint :=
    match i with
    | .ofNat n => ((Text.CodePoint.ofNat? n).map .ok).getD (.error (.template .noCharacter))
    | .negSucc _ => .error (.template .noCharacter)
  match v with
  | .text s =>
    match s.toList with
    | [c] => .ok (.char c)
    | _ => .error (.shape .wrongType)
  | .bool b => ofInt (if b then 1 else 0)
  | .int i => ofInt i
  | _ => .error (.shape .wrongType)

/-- Writes an argument by a directive. The template has so many characters, and `rest` of them follow
the mark. -/
def Directive.write (d : Directive) (size : Nat) (rest : List Char) (v : Value) :
    Except Fault (List Text.CodePoint) := do
  match d.mark with
  | 's' => d.fill (d.text (← v.write))
  | 'r' => d.fill (d.text (← Value.writing [v] v.literal))
  | 'a' => d.fill (d.text (← Value.writing [v] (Text.asciiOnly v.literal)))
  | 'd' | 'i' | 'u' | 'o' | 'x' | 'X' => d.fill (← d.whole (← wholeOf d.mark v))
  | 'e' | 'E' | 'f' | 'F' | 'g' | 'G' => d.fill (← d.real (← realOf v))
  | 'c' => d.fill { body := [← codePointOf v] }
  | mark => throw (.template (.unsupported mark (size - rest.length - 1)))

/-- Fills in what is left of a template of some size, reading so many directives and characters at
most. -/
def fillIn (size : Nat) : Nat → Supply → List Char → Except Fault (List Text.CodePoint)
  | _, supply, [] => do
    supply.close
    return []
  | 0, _, _ => .error (.template .incomplete)
  | n + 1, supply, c :: rest =>
    if c != '%' then do return .char c :: (← fillIn size n supply rest)
    else if rest.head? == some '%' then do return .char '%' :: (← fillIn size n supply rest.tail)
    else do
      let (d, supply, rest) ← takeDirective supply rest
      let (v, supply) ← supply.next
      let written ← d.write size rest v
      return written ++ (← fillIn size n supply rest)

def format (template : String) (supply : Supply) : Except Fault (List Text.CodePoint) :=
  let cs := template.toList
  fillIn cs.length cs.length supply cs

/-- The arguments of a row; a map that stands alone and is not empty serves its keys. -/
def Supply.ofArguments : List Value → Supply
  | [.map (e :: es)] => .keyed (e :: es) (some (.map (e :: es)))
  | vs => .row vs

end TableQuery.Template
