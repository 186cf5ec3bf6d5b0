import TableQuery.Log.Calendar
import TableQuery.Text.Capital

/-!
# Date templates

A date template is text with directives: a percent sign, flags, a width, a mark of another spelling,
and a letter that stands for a part of a moment. A directive that stands for nothing is written as
it is, but in its width and case. `DateTemplate.write` gives up on a text that outgrows the room of
its template.
-/

namespace TableQuery.DateTemplate

/-- What fills a part up to its width: zeros after the sign of a number, blanks, or for a number
nothing up to its own least width. -/
inductive Filling where
  | zeros
  | blanks
  | bare
  deriving DecidableEq

/-- How a part is written: the filling that replaces its own, the case of its letters, and the least
width. -/
structure Style where
  filling : Option Filling := none
  upper : Bool := false
  swapped : Bool := false
  width : Nat := 0

/-! ### Reading a template -/

/-- A directive: its style, the mark and the letter, and the text that it is read from. -/
structure Directive where
  style : Style
  mark : Option Char
  letter : Option Char
  source : List Char

inductive Piece where
  | char (c : Char)
  | directive (d : Directive)

def takeFlags (s : Style) : List Char → Style × List Char
  | '_' :: rest => takeFlags { s with filling := some .blanks } rest
  | '-' :: rest => takeFlags { s with filling := some .bare } rest
  | '0' :: rest => takeFlags { s with filling := some .zeros } rest
  | '^' :: rest => takeFlags { s with upper := true } rest
  | '#' :: rest => takeFlags { s with swapped := true } rest
  | cs => (s, cs)

def takeMark : List Char → Option Char × List Char
  | c :: rest => if c == 'E' || c == 'O' then (some c, rest) else (none, c :: rest)
  | [] => (none, [])

def Directive.read (cs : List Char) : Directive :=
  let (style, rest) := takeFlags {} cs
  let (width, _, rest) := Decimal.takeDigits 0 0 rest
  let (mark, rest) := takeMark rest
  { style := { style with width }
    mark
    letter := rest.head?
    source := '%' :: cs.take (cs.length - rest.tail.length) }

def pieces (inside : Nat) : List Char → List Piece
  | [] => []
  | c :: rest =>
    match inside with
    | n + 1 => pieces n rest
    | 0 =>
      if c == '%' then
        let d := Directive.read rest
        .directive d :: pieces (d.source.length - 1) rest
      else .char c :: pieces 0 rest

/-! ### Parts of a moment -/

inductive Part where
  | number (width : Nat) (filling : Filling) (n : Int)
  | text (cs : List Char)
  | distance (sign : Char) (n : Int)

def padded (width : Nat) (filling : Filling) (n : Int) : List Char :=
  let sign := if n < 0 then ['-'] else []
  let ds := Nat.toDigits 10 n.natAbs
  let missing := width - (sign.length + ds.length)
  match filling with
  | .zeros => sign ++ List.replicate missing '0' ++ ds
  | .blanks => List.replicate missing ' ' ++ sign ++ ds
  | .bare => sign ++ ds

def two (n : Nat) : List Char := padded 2 .zeros n

def short (cs : List Char) : List Char := cs.take 3

def hourMinute (m : Moment) : List Char := two m.hour ++ ':' :: two m.minute

def clock (m : Moment) : List Char := hourMinute m ++ ':' :: two m.second

def dialClock (m : Moment) : List Char :=
  two m.dialHour ++ ':' :: two m.minute ++ ':' :: two m.second ++ ' ' :: m.halfDay

def shortYear (year : Int) : Nat := (year % 100).toNat

def slashDate (m : Moment) : List Char :=
  two m.month ++ '/' :: two m.day ++ '/' :: two (shortYear m.year)

def dashDate (m : Moment) : List Char :=
  padded 1 .zeros m.year ++ '-' :: two m.month ++ '-' :: two m.day

def longDate (m : Moment) : List Char :=
  short m.weekdayName ++ ' ' :: short m.monthName ++ ' ' :: padded 2 .blanks m.day ++
    ' ' :: clock m ++ ' ' :: padded 1 .zeros m.year

def part? (m : Moment) (letter : Char) : Option Part :=
  match letter with
  | 'a' => some (.text (short m.weekdayName))
  | 'A' => some (.text m.weekdayName)
  | 'b' => some (.text (short m.monthName))
  | 'h' => some (.text (short m.monthName))
  | 'B' => some (.text m.monthName)
  | 'c' => some (.text (longDate m))
  | 'C' => some (.number 1 .zeros (m.year / 100))
  | 'd' => some (.number 2 .zeros m.day)
  | 'D' => some (.text (slashDate m))
  | 'e' => some (.number 2 .blanks m.day)
  | 'F' => some (.text (dashDate m))
  | 'g' => some (.number 2 .zeros (shortYear m.thursdayWeek.1))
  | 'G' => some (.number 1 .zeros m.thursdayWeek.1)
  | 'H' => some (.number 2 .zeros m.hour)
  | 'I' => some (.number 2 .zeros m.dialHour)
  | 'j' => some (.number 3 .zeros (m.yearDay + 1))
  | 'k' => some (.number 2 .blanks m.hour)
  | 'l' => some (.number 2 .blanks m.dialHour)
  | 'm' => some (.number 2 .zeros m.month)
  | 'M' => some (.number 2 .zeros m.minute)
  | 'n' => some (.text ['\n'])
  | 'p' => some (.text m.halfDay)
  | 'P' => some (.text m.halfDay)
  | 'r' => some (.text (dialClock m))
  | 'R' => some (.text (hourMinute m))
  | 's' => some (.text (padded 1 .bare m.seconds))
  | 'S' => some (.number 2 .zeros m.second)
  | 't' => some (.text ['\t'])
  | 'T' => some (.text (clock m))
  | 'u' => some (.number 1 .zeros (if m.weekday = 0 then 7 else m.weekday))
  | 'U' => some (.number 2 .zeros (m.weekFrom 0))
  | 'V' => some (.number 2 .zeros m.thursdayWeek.2)
  | 'w' => some (.number 1 .zeros m.weekday)
  | 'W' => some (.number 2 .zeros (m.weekFrom 1))
  | 'x' => some (.text (slashDate m))
  | 'X' => some (.text (clock m))
  | 'y' => some (.number 2 .zeros (shortYear m.year))
  | 'Y' => some (.number 1 .zeros m.year)
  | 'z' => some (.distance '+' 0)
  | 'Z' => some (.text ['U', 'T', 'C'])
  | '%' => some (.text ['%'])
  | _ => none

/-- The letters before which a mark must not stand. -/
def refused (mark : Char) : List Char :=
  if mark == 'E' then "%aAbBdDeFgGhHIjklmMSUVwW".toList else "%aAcDFxXY".toList

/-- The letter of a directive with the part that it stands for, unless its mark must not stand before
it. -/
def Directive.part? (d : Directive) (m : Moment) : Option (Char × Part) := do
  let letter ← d.letter
  if (d.mark.map fun mark => (refused mark).contains letter).getD false then none
  else return (letter, ← DateTemplate.part? m letter)

/-! ### Writing a part -/

def Style.fill (s : Style) (cs : List Char) : List Char :=
  List.replicate (s.width - cs.length) (if s.filling = some .zeros then '0' else ' ') ++ cs

/-- Writes a text in capitals if a flag asks for it; `names` says whether the other flag does so
too. -/
def Style.capitals (s : Style) (names : Bool) (cs : List Char) : List Char :=
  if s.upper || (s.swapped && names) then cs.map Text.capital else cs

/-- A text in the case that the flags ask for. The half of the day and the time zone are the texts
that change to small letters. -/
def Style.inCase (s : Style) (letter : Char) (cs : List Char) : List Char :=
  if letter == 'P' || (s.swapped && (letter == 'p' || letter == 'Z')) then cs.map Char.toLower
  else s.capitals ("aAbBh".toList.contains letter) cs

def Style.number (s : Style) (width : Nat) (filling : Filling) (n : Int) : List Char :=
  s.fill (padded (max width s.width) (s.filling.getD filling) n)

/-- A directive that stands for nothing as it is read, but of a percent sign with a mark the sign
alone. Before the short names of a month the flags still ask for capitals. -/
def Directive.literal (d : Directive) : List Char :=
  let source := if d.letter = some '%' then ['%'] else d.source
  d.style.fill (d.style.capitals (d.letter = some 'b' || d.letter = some 'h') source)

def Style.write (s : Style) (letter : Char) : Part → List Char
  | .number width filling n => s.number width filling n
  | .text cs => s.fill (s.inCase letter cs)
  | .distance sign n => s.fill [sign] ++ s.number 4 .zeros n

def Directive.write (d : Directive) (m : Moment) : List Char :=
  match d.part? m with
  | some (letter, p) => d.style.write letter p
  | none => d.literal

/-- A length that a piece has at least. -/
def Piece.leastLength : Piece → Nat
  | .char _ => 1
  | .directive d => d.style.width

def Piece.write (m : Moment) : Piece → List Char
  | .char c => [c]
  | .directive d => d.write m

/-- Writes pieces, if they are shorter than the room. -/
def writeWithin (m : Moment) (room : Nat) : List Piece → Option (List Char)
  | [] => some []
  | p :: ps =>
    if p.leastLength < room then
      let cs := p.write m
      if cs.length < room then (writeWithin m (room - cs.length) ps).map (cs ++ ·) else none
    else none

/-- The room of a template of some length: a power of two that is at least 1024, and not less than
256 for each character. -/
def room (length : Nat) : Nat := (max 1024 (256 * length)).nextPowerOfTwo

def write (template : String) (m : Moment) : String :=
  let cs := template.toList
  String.ofList ((writeWithin m (room cs.length) (pieces 0 cs)).getD [])

def write? (template : String) (m : Moment) : Except TimeFault String :=
  if template.toList.contains '\x00' then .error .nulInTemplate else .ok (write template m)

end TableQuery.DateTemplate
