import TableQuery.Value.Literal
import TableQuery.Statement.Kind
import TableQuery.Text.Blank

/-!
# Faults

Everything that can end a call without an answer. A `Misuse` is a wrong use of a builder, which
the builder records; the other faults come from placeholders, options and variables, numbers,
values of the wrong shape or size, log times and templates, or are raised by a collaborator and
passed on as they are.
`Fault.message` gives the words of each.
-/

namespace TableQuery

inductive JoinSide where
  | left
  | right
  | inner
  deriving DecidableEq

def JoinSide.keyword : JoinSide → String
  | .left => "LEFT"
  | .right => "RIGHT"
  | .inner => "INNER"

inductive Misuse where
  | noTable
  | noField
  | noOperator (field : Value)
  | noCondition
  | noMemberField
  | incompleteJoin (side : JoinSide)
  | selectionSet
  | emptySelection
  | badDirection (direction : Value)
  | orderSet
  | noOrderField
  | badLimit (quantity : Value)
  | limitSet
  | badOffset (quantity : Value)
  | offsetSet
  | forbidden (group : ClauseGroup) (kind : Kind)
  | noData (kind : Kind)
  | executed
  | noPageSize
  | badPage (number : Value)
  | boundsSet

def Misuse.message : Misuse → String
  | .noTable => "A table name is required"
  | .noField => "WHERE requires a field name"
  | .noOperator field => "WHERE on " ++ field.literal ++ " requires a comparison operator"
  | .noCondition => "Raw WHERE requires a condition"
  | .noMemberField => "WHERE IN requires a field name"
  | .incompleteJoin side =>
    side.keyword ++ " JOIN requires a table, a local field and a remote field"
  | .selectionSet => "Fields could be set only once"
  | .emptySelection => "At least one field is required"
  | .badDirection direction => "Invalid order value: " ++ direction.literal
  | .orderSet => "Order could be set only once"
  | .noOrderField => "ORDER BY requires a field name"
  | .badLimit quantity => "Limit value is not a non-negative integer: " ++ quantity.literal
  | .limitSet => "Limit could be set only once"
  | .badOffset quantity => "Offset value is not a non-negative integer: " ++ quantity.literal
  | .offsetSet => "Offset could be set only once"
  | .forbidden group kind =>
    "Parameter " ++ Text.quote group.name ++ " is forbidden in " ++ kind.keyword ++ " query"
  | .noData kind => kind.keyword ++ " query requires at least one field value"
  | .executed => "Query has already been executed"
  | .noPageSize => "Limit is required"
  | .badPage number => "Page number must be a positive integer: " ++ number.literal
  | .boundsSet => "Limit and offset are set by pagination and must not be set beforehand"

inductive PlaceholderFault where
  | unreadable (context : String)
  | miscounted (placeholders values : Nat)
  deriving DecidableEq

def PlaceholderFault.message : PlaceholderFault → String
  | .unreadable context => "Unable to tokenize statement: Error tokenizing '" ++ context ++ "'"
  | .miscounted placeholders values =>
    "Parameter count mismatch: " ++ Text.decimal placeholders ++ " placeholder(s) but " ++
      Text.decimal values ++ " value(s)"

inductive ShapeFault where
  | wrongType
  | noSuchMember
  | outOfRange
  deriving DecidableEq

/-- What is too large about a sequence: the number of its copies, the length of repeated text or
bytes, or what is to be stored. -/
inductive SizeFault where
  | copies
  | text
  | bytes
  | storage
  deriving DecidableEq

def SizeFault.message : SizeFault → String
  | .copies => "cannot fit 'int' into an index-sized integer"
  | .text => "repeated string is too long"
  | .bytes => "repeated bytes are too long"
  | .storage => ""

def storageLimit : Nat := Nat.pow 2 26

inductive VariableFault where
  | nul
  | equalitySign
  | unnamed
  deriving DecidableEq

def VariableFault.message : VariableFault → String
  | .nul => "embedded null byte"
  | .equalitySign => "illegal environment variable name"
  | .unnamed => "[Errno 22] Invalid argument"

/-- What is wrong with a time: its seconds do not fit into 64 bits or are no number, its year does
not fit into 32 bits, counted from 1900 or at all, or its template holds a NUL. -/
inductive TimeFault where
  | outOfRange
  | notNumber
  | farYear
  | largeYear
  | nulInTemplate
  deriving DecidableEq

def TimeFault.message : TimeFault → String
  | .outOfRange => "timestamp out of range for platform time_t"
  | .notNumber => "Invalid value NaN (not a number)"
  | .farYear => "[Errno 75] Value too large for defined data type"
  | .largeYear => "signed integer is greater than maximum"
  | .nulInTemplate => "embedded null character"

/-- A run of surrogates in a text that has to be written: the first of them, its position, and
how many they are. -/
structure SurrogateRun where
  first : Nat
  start : Nat
  length : Nat
  deriving DecidableEq

def SurrogateRun.message (r : SurrogateRun) : String :=
  let place :=
    if r.length = 1 then
      " character '" ++ String.ofList (Text.codePointEscape r.first) ++ "' in position " ++
        Text.decimal r.start
    else
      " characters in position " ++ Text.decimal r.start ++ "-" ++
        Text.decimal (r.start + r.length - 1)
  "'utf-8' codec can't encode" ++ place ++ ": surrogates not allowed"

inductive TemplateFault where
  | incomplete
  | incompleteKey
  | tooWide
  | tooPrecise
  | widthOverflow
  | precisionOverflow
  | precisionTooLarge
  | unsupported (mark : Char) (index : Nat)
  | noCharacter
  deriving DecidableEq

inductive ErrorClass where
  | general
  | builder
  | parameter
  | configuration
  deriving DecidableEq

def ErrorClass.name : ErrorClass → String
  | .general => "MysqlbError"
  | .builder => "SQLBuilderError"
  | .parameter => "ParameterError"
  | .configuration => "ImproperConfigurationError"

def ErrorClass.all : List ErrorClass := [.general, .builder, .parameter, .configuration]

def ErrorClass.lineage : ErrorClass → List ErrorClass
  | .general => [.general]
  | c => [c, .general]

inductive Raised where
  | library (cls : ErrorClass) (text : String)
  | key (text : String)
  | other (kind text : String)
  deriving DecidableEq

/-- The library's own errors show their text without blanks around it, a missing key its literal. -/
def Raised.message : Raised → String
  | .library _ text => Text.strip text
  | .key text => Text.quote text
  | .other _ text => text

inductive Fault where
  | misuse (m : Misuse)
  | placeholders (f : PlaceholderFault) (sql : String)
  | missingOption (name : String)
  | unknownKind (name : String)
  | shape (f : ShapeFault)
  | missingKey (key : Value)
  | notInteger (literal : String)
  | number (f : NumberFault)
  | size (f : SizeFault)
  | environment (f : VariableFault)
  | time (f : TimeFault)
  | surrogates (r : SurrogateRun)
  | template (f : TemplateFault)
  | notPair (index length : Nat)
  | notLevel (name : String)
  | raised (r : Raised)
  | cancelled (words : String)

def TemplateFault.message : TemplateFault → String
  | .incomplete => "incomplete format"
  | .incompleteKey => "incomplete format key"
  | .tooWide => "width too big"
  | .tooPrecise => "precision too big"
  | .widthOverflow => "Python int too large to convert to C ssize_t"
  | .precisionOverflow => "Python int too large to convert to C int"
  | .precisionTooLarge => "precision too large"
  | .unsupported mark index =>
    let shown := if 31 ≤ mark.toNat && mark.toNat < 127 then mark else '?'
    "unsupported format character '" ++ String.singleton shown ++ "' (0x" ++
      String.ofList (Nat.toDigits 16 mark.toNat) ++ ") at index " ++ Text.decimal index
  | .noCharacter => "%c arg not in range(0x110000)"

/-- The words of a parameter fault: what is wrong, then the statement unless it is empty. -/
def placeholderMessage (f : PlaceholderFault) (sql : String) : String :=
  Text.strip (if sql == "" then f.message else f.message ++ "\nSQL: " ++ sql)

/-- The words of a fault. A wrong shape has none of its own. -/
def Fault.message : Fault → String
  | .misuse m => Text.strip m.message
  | .placeholders f sql => placeholderMessage f sql
  | .missingOption name => "Option " ++ Text.quote name ++ " is required"
  | .unknownKind name => Text.quote name ++ " is not a valid StatementKind"
  | .shape _ => ""
  | .missingKey key => key.literal
  | .notInteger literal => "invalid literal for int() with base 10: " ++ literal
  | .number f => f.message
  | .size f => f.message
  | .environment f => f.message
  | .time f => f.message
  | .surrogates r => r.message
  | .template f => f.message
  | .notPair index length =>
    "dictionary update sequence element #" ++ Text.decimal index ++ " has length " ++
      Text.decimal length ++ "; 2 is required"
  | .notLevel name => "Unknown level: " ++ Text.quote name
  | .raised r => r.message
  | .cancelled words => words

end TableQuery
