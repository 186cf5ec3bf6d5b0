import TableQuery.Sql.Lexeme

/-!
# Scanning statements

`scan` goes through a statement character by character and gives its tokens with their places. The
text of a command is read like any other, but up to the next separator its tokens are dropped and
one token stands for all of it.
-/

namespace TableQuery.Sql

structure Token where
  kind : TokenKind
  start : Nat
  deriving DecidableEq

/-- Where a scan is: in a statement, or in the text of a command that began at a place and held
something but blanks or not. -/
inductive Zone where
  | statement
  | command (start : Nat) (filled : Bool)
  deriving DecidableEq

def Zone.isCommand : Zone → Bool
  | .statement => false
  | .command .. => true

def Zone.close : Zone → List Token
  | .command start true => [⟨.other, start⟩]
  | _ => []

def Zone.fill : Zone → Zone
  | .command start _ => .command start true
  | .statement => .statement

/-- A command takes what follows for its text if it is the first token or follows a separator or an
opening word, and no separator comes at once. -/
def takesText (prev : Option TokenKind) (next : Option Char) : Bool :=
  (prev == none || prev == some .separator || prev == some .opening) && next != some ';'

/-- The tokens of a text from `pos` on. `inside` counts the characters ahead that belong to the
lexeme read last, and `prev` is the kind of the token before. -/
def scan (zone : Zone) (prev : Option TokenKind) (inside pos : Nat) :
    List Char → Except Nat (List Token)
  | [] => .ok zone.close
  | c :: rest =>
    match inside with
    | n + 1 => scan zone prev n (pos + 1) rest
    | 0 =>
      if Text.isBlank c then scan zone prev 0 (pos + 1) rest
      else if zone.isCommand && c == ';' then
        (scan .statement (some .separator) 0 (pos + 1) rest).map fun ts =>
          zone.close ++ ⟨.separator, pos⟩ :: ts
      else
        match lexeme prev pos c rest with
        | .error place => .error place
        | .ok ⟨none, more⟩ => scan zone.fill prev more (pos + 1) rest
        | .ok ⟨some kind, more⟩ =>
          if zone.isCommand then scan zone.fill (some kind) more (pos + 1) rest
          else
            let zone := if kind == .command && takesText prev (rest.drop more).head? then
                Zone.command (pos + 1 + more) false
              else zone
            (scan zone (some kind) more (pos + 1) rest).map fun ts => ⟨kind, pos⟩ :: ts

/-- What reads statements: it gives the tokens of a text, or the place where it cannot be read. -/
abbrev Tokenizer := List Char → Except Nat (List Token)

def tokens (sql : List Char) : Except Nat (List Token) := scan .statement none 0 0 sql

end TableQuery.Sql
