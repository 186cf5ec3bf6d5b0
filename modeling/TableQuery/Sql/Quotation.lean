import TableQuery.Text.Quoted

/-!
# Quoted texts in statements

`closing` finds the end of a quoted text. A doubled quotation mark stands for one mark, and except
between backquotes a backslash takes the next character with it. A failure is reported one place
after the character at which the text cannot go on.
-/

namespace TableQuery.Sql

def isTextMark (c : Char) : Bool := c == Text.apostrophe || c == Text.doubleQuote

/-- Between backquotes, a backslash is a character like any other. -/
def hasEscapes (mark : Char) : Bool := mark != Text.backquote

/-- A mark that is doubled does not close a text, nor does the other text mark. -/
def isDoubled (mark c d : Char) : Bool :=
  (c == mark || (hasEscapes mark && isTextMark c)) && d == c

/-- The number of characters up to the closing mark and with it, or the place of the failure.
`pos` is the place of the first character. -/
def closing (mark : Char) (pos : Nat) : List Char → Except Nat Nat
  | [] => .error (pos + 1)
  | [c] => if c == mark then .ok 1 else .error (pos + 1)
  | [c, d] =>
    if hasEscapes mark && c == Text.backslash then
      .error (if isTextMark d || d == Text.backslash then pos + 1 else pos + 2)
    else if isDoubled mark c d then .error (pos + 1)
    else if c == mark then .ok 1
    else (closing mark (pos + 1) [d]).map (· + 1)
  | c :: d :: e :: rest =>
    if hasEscapes mark && c == Text.backslash then
      (closing mark (pos + 2) (e :: rest)).map (· + 2)
    else if isDoubled mark c d then (closing mark (pos + 2) (e :: rest)).map (· + 2)
    else if c == mark then .ok 1
    else (closing mark (pos + 1) (d :: e :: rest)).map (· + 1)

def unescaped (c : Char) : List Char :=
  if c == '0' then ['\x00']
  else if c == 'Z' then ['\x1a']
  else if c == 'n' then ['\n']
  else if c == 't' then ['\t']
  else if c == 'r' then ['\r']
  else if c == 'b' then ['\x08']
  else if c == '%' || c == '_' then [Text.backslash, c]
  else [c]

def unescape : List Char → List Char
  | [] => []
  | [c] => [c]
  | c :: d :: rest =>
    if c == Text.backslash then unescaped d ++ unescape rest
    else if c == Text.apostrophe && d == Text.apostrophe then Text.apostrophe :: unescape rest
    else c :: unescape (d :: rest)

end TableQuery.Sql
