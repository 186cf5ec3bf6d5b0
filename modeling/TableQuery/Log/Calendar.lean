import TableQuery.Value.Access

/-!
# Calendar

A moment is a second of the Gregorian calendar. `Moment.ofSeconds` gives the moment so many seconds
after the start of 1970, and `Moment.ofSeconds?` refuses those that the clock or the calendar cannot
hold.
-/

namespace TableQuery

/-- A moment: its date, its time, the day of the week counted from Sunday, and the day of the year
counted from zero. -/
structure Moment where
  year : Int
  month : Nat
  day : Nat
  hour : Nat
  minute : Nat
  second : Nat
  weekday : Nat
  yearDay : Nat
  seconds : Int

namespace Moment

def isLeap (year : Int) : Bool := year % 4 == 0 && (year % 100 != 0 || year % 400 == 0)

def daysBefore (leap : Bool) (month : Nat) : Nat :=
  let days := [31, if leap then 29 else 28, 31, 30, 31, 30, 31, 31, 30, 31, 30, 31]
  (days.take (month - 1)).foldl (· + ·) 0

def yearStart (year : Int) : Int :=
  let y := year - 1
  365 * y + y / 4 - y / 100 + y / 400 - 719162

/-- The year of a day. Four hundred years have 146097 days, so the guess is off by one at most. -/
def yearOf (day : Int) : Int :=
  let guess := (day + 719162) * 400 / 146097 + 1
  if day < yearStart guess then guess - 1
  else if yearStart (guess + 1) ≤ day then guess + 1
  else guess

def monthOf (leap : Bool) (yearDay : Nat) : Nat :=
  ((List.range 12).filter fun i => daysBefore leap (i + 1) ≤ yearDay).length

def ofSeconds (seconds : Int) : Moment :=
  let day := seconds / 86400
  let time := (seconds % 86400).toNat
  let year := yearOf day
  let yearDay := (day - yearStart year).toNat
  let leap := isLeap year
  let month := monthOf leap yearDay
  { year, month
    day := yearDay - daysBefore leap month + 1
    hour := time / 3600
    minute := time / 60 % 60
    second := time % 60
    weekday := ((day + 4) % 7).toNat
    yearDay, seconds }

def weekdayNames : List String :=
  ["Sunday", "Monday", "Tuesday", "Wednesday", "Thursday", "Friday", "Saturday"]

def monthNames : List String :=
  ["January", "February", "March", "April", "May", "June", "July", "August", "September",
    "October", "November", "December"]

def weekdayName (m : Moment) : List Char := (weekdayNames.getD m.weekday "").toList

def monthName (m : Moment) : List Char := (monthNames.getD (m.month - 1) "").toList

def dialHour (m : Moment) : Nat := if m.hour % 12 = 0 then 12 else m.hour % 12

def halfDay (m : Moment) : List Char := if m.hour < 12 then ['A', 'M'] else ['P', 'M']

/-- The number of a week that begins on some weekday; days before the first such day are in week
zero. -/
def weekFrom (m : Moment) (first : Nat) : Nat := (m.yearDay + 7 - (m.weekday + 7 - first) % 7) / 7

/-- The year and number of the week that holds the Thursday next to a day. The year is counted in 32
bits, since the last week of the last year may belong to the next. -/
def thursdayWeek (m : Moment) : Int × Nat :=
  let day := m.seconds / 86400
  let thursday := day - (m.weekday + 6) % 7 + 3
  let year := yearOf thursday
  (year.bmod (Nat.pow 2 32), ((thursday - yearStart year) / 7).toNat + 1)

/-! ### Limits -/

/-- Tests whether an integer has so many bits, with its sign. -/
def fits (bits : Nat) (i : Int) : Bool := -Nat.pow 2 (bits - 1) ≤ i && i < Nat.pow 2 (bits - 1)

/-- The moment so many seconds after the start of 1970. The seconds have to fit into 64 bits, and
the year into 32 bits, both counted from 1900 and by itself. -/
def ofSeconds? (seconds : Int) : Except TimeFault Moment :=
  let m := ofSeconds seconds
  if !fits 64 seconds then .error .outOfRange
  else if !fits 32 (m.year - 1900) then .error .farYear
  else if !fits 32 m.year then .error .largeYear
  else .ok m

def secondOf : Number → Except TimeFault Int
  | .whole i => .ok i
  | .real .nan => .error .notNumber
  | .real x =>
    match x.floor? with
    | some i => .ok i
    | none => .error .outOfRange

def ofValue? (v : Value) : Except Fault Moment :=
  match v.number? with
  | some n => (do ofSeconds? (← secondOf n)).mapError .time
  | none => .error (.shape .wrongType)

end Moment

end TableQuery
