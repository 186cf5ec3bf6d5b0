import TableQuery.Sql.Quotation
import TableQuery.Text.Integer
import TableQuery.Text.UpperCase

/-!
# Lexemes

`lexeme` reads one token or comment of a statement at a character that is no blank: a number, a
quoted text, a comment, an operator, a command, a mark or a word, tried in this order. It gives the
number of characters that belong to the lexeme after the first, or the place of a failure.
-/

namespace TableQuery.Sql

/-- What a token is, as far as placeholders hang on it. -/
inductive TokenKind where
  | placeholder
  | at
  | separator
  | opening
  | command
  | other
  deriving DecidableEq

/-- A token or a comment: `kind` is `none` for a comment, and `more` counts the characters after
the first. -/
structure Lexeme where
  kind : Option TokenKind
  more : Nat
  deriving DecidableEq

/-- The characters that are tokens by themselves and end a word. -/
def marks : List Char :=
  ['(', ')', '[', ']', '\x7b', '\x7d', '&', '^', ':', ',', '.', '-', '=', '>', '<', '%', '!', '|',
    '+', ';', '/', '\x5c', '*', '~', '?', '@', '#', '\x27', '\x60', '\x22']

def isMark (c : Char) : Bool := marks.contains c

def endsWord (c : Char) : Bool := Text.isBlank c || isMark c

def wordLength (cs : List Char) : Nat := (cs.takeWhile fun c => !endsWord c).length

/-! ### Numbers -/

/-- How many characters go on a number: digits, a point unless the number follows `@`, an exponent
with a sign before a digit, and letters to the end of the word. `signs` says whether an exponent
mark has been read that no sign has followed yet. -/
def numberLength (afterAt point exponent signs : Bool) : List Char → Nat
  | [] => 0
  | c :: rest =>
    if Text.isAsciiDigit c then numberLength afterAt point exponent signs rest + 1
    else if c == '.' && !point then
      if afterAt then 0 else numberLength afterAt true exponent signs rest + 1
    else if (c == '-' || c == '+') && signs then
      if (rest.head?.map Text.isAsciiDigit).getD false then
        numberLength afterAt point exponent false rest + 1
      else 0
    else if (c == 'e' || c == 'E') && !exponent then
      numberLength afterAt point true true rest + 1
    else wordLength (c :: rest)

def isRadixMark (c : Char) : Bool := c == 'x' || c == 'X' || c == 'b' || c == 'B'

def numberMore (afterAt : Bool) (c : Char) (rest : List Char) : Nat :=
  match rest with
  | m :: more =>
    if c == '0' && isRadixMark m then wordLength more + 1
    else numberLength afterAt false false false rest
  | [] => 0

/-! ### Openers and operators -/

/-- What a sequence of marks begins or is. -/
inductive Lead where
  | operator
  | lineComment
  | dashComment
  | blockComment (closer : List Char)
  | quoted (mark : Char)
  | digits (base : Nat)

/-- The sequences that are read as one, in capitals and the longer before the shorter. -/
def leads : List (List Char × Lead) :=
  [("USER-DEFINED".toList, .operator), ("<<->>".toList, .operator)] ++
  (["\x7b%+", "\x7b%-", "+%\x7d", "-%\x7d", "\x7b\x7b+", "\x7b\x7b-", "+\x7d\x7d", "-\x7d\x7d",
    "?::", "<=>", "->>", "#>>", "<->", "~~~", "~~*", "-|-"].map fun s => (s.toList, Lead.operator)) ++
  [("/*+".toList, .blockComment ['*', '/'])] ++
  (["\x7b%", "%\x7d", "&<", "&>", "==", "::", "||", "|>", ">=", "<=", "<>", "!=", ":=", "->", "=>",
    "#>", "&&", "??", "~~", "~*", "@@"].map fun s => (s.toList, Lead.operator)) ++
  [(['-', '-'], .dashComment),
   (['/', '*'], .blockComment ['*', '/']),
   (['\x7b', '#'], .blockComment ['#', '\x7d']),
   (['N', '\x27'], .quoted '\x27'),
   (['N', '\x22'], .quoted '\x22'),
   (['B', '\x27'], .digits 2),
   (['X', '\x27'], .digits 16),
   (['#'], .lineComment),
   (['\x27'], .quoted '\x27'),
   (['\x22'], .quoted '\x22')]

def longestLead : Nat := 12

/-- The longest lead at the head of a text, with ASCII letters in any case. -/
def lead? (cs : List Char) : Option (List Char × Lead) :=
  let head := (cs.take longestLead).map Char.toUpper
  leads.find? fun p => p.1.isPrefixOf head

/-- Two dashes begin a comment before a blank, a control character or the end. -/
def dashesComment : List Char → Bool
  | [] => true
  | c :: _ => Text.isBlank c || c.toNat < 32 || c.toNat == 127

def lengthBefore? (needle : List Char) : List Char → Option Nat
  | [] => if needle.isEmpty then some 0 else none
  | c :: rest =>
    if needle.isPrefixOf (c :: rest) then some 0 else (lengthBefore? needle rest).map (· + 1)

def lineLength (cs : List Char) : Nat := (cs.takeWhile (· != '\n')).length

def isDigits (base : Nat) (cs : List Char) : Bool :=
  cs.isEmpty || (Text.readInteger? base cs).isSome

/-- Reads what a lead of `size` characters begins. `body` is the text after the lead, and `pos` its
place. -/
def Lead.lexeme (lead : Lead) (size pos : Nat) (body : List Char) : Except Nat Lexeme :=
  match lead with
  | .operator => .ok ⟨some .other, size - 1⟩
  | .lineComment => .ok ⟨none, size - 1 + lineLength body⟩
  | .dashComment =>
    if dashesComment body then .ok ⟨none, size - 1 + lineLength body⟩ else .ok ⟨some .other, 0⟩
  | .blockComment closer =>
    match lengthBefore? closer body with
    | some n => .ok ⟨none, size - 1 + n + closer.length⟩
    | none => .error (pos + body.length + 1)
  | .quoted mark => (closing mark pos body).map fun n => ⟨some .other, size - 1 + n⟩
  | .digits base => do
    let n ← closing Text.apostrophe pos body
    if isDigits base (unescape (body.take (n - 1))) then return ⟨some .other, size - 1 + n⟩
    else .error (pos + n)

/-! ### Commands, marks and words -/

/-- The words after which the rest of a statement is not read. -/
def commandWords : List (List Char) :=
  ["CALL", "OPTIMIZE", "PREPARE", "VACUUM", "EXECUTE", "FETCH", "RENAME", "REPLACE"].map
    String.toList

/-- The words after which a command may stand. -/
def openingWords : List (List Char) := ["BEGIN", "START"].map String.toList

def lockWords : List (List Char) := ["LOCK", "UNLOCK"].map String.toList

/-- The length of the command that locks or unlocks tables, if it stands at the head of a text.
Only ASCII letters may be in either case. -/
def lockLength? (cs : List Char) : Option Nat :=
  let first := wordLength cs
  let gap := ((cs.drop first).takeWhile Text.isBlank).length
  let second := wordLength (cs.drop (first + gap))
  if lockWords.contains ((cs.take first).map Char.toUpper) && 0 < gap &&
      ((cs.drop (first + gap)).take second).map Char.toUpper == "TABLES".toList then
    some (first + gap + second)
  else none

def markKind (c : Char) : TokenKind :=
  if c == '?' then .placeholder
  else if c == '@' then .at
  else if c == ';' then .separator
  else .other

/-- What a word is. After `@` it is a name. -/
def wordKind (prev : Option TokenKind) (word : List Char) : TokenKind :=
  if prev == some .at then .other
  else if commandWords.contains (Text.upperChars word) then .command
  else if openingWords.contains (Text.upperChars word) then .opening
  else .other

def lexeme (prev : Option TokenKind) (pos : Nat) (c : Char) (rest : List Char) :
    Except Nat Lexeme :=
  if Text.isAsciiDigit c then .ok ⟨some .other, numberMore (prev == some .at) c rest⟩
  else if c == Text.backquote then
    (closing Text.backquote (pos + 1) rest).map fun n => ⟨some .other, n⟩
  else
    match lead? (c :: rest) with
    | some (text, lead) =>
      lead.lexeme text.length (pos + text.length) ((c :: rest).drop text.length)
    | none =>
      match lockLength? (c :: rest) with
      | some n => .ok ⟨some .command, n - 1⟩
      | none =>
        if isMark c then .ok ⟨some (markKind c), 0⟩
        else
          let word := (c :: rest).take (wordLength (c :: rest))
          .ok ⟨some (wordKind prev word), word.length - 1⟩

end TableQuery.Sql
