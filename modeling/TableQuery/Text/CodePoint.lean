/-!
# Code points

A code point is a character or a surrogate, which is half of a pair and no character by itself.
Every text is a sequence of code points, and `splitSurrogate` finds the first place at which a
sequence is no text.
-/

namespace TableQuery.Text

/-- A character, or a surrogate by its place among the 2048 surrogates. -/
inductive CodePoint where
  | char (c : Char)
  | surrogate (place : Fin 2048)
  deriving DecidableEq

namespace CodePoint

def firstSurrogate : Nat := 0xD800

def toNat : CodePoint → Nat
  | .char c => c.toNat
  | .surrogate place => firstSurrogate + place

def ofNat? (n : Nat) : Option CodePoint :=
  if h : n.isValidChar then some (.char (Char.ofNatAux n h))
  else if h : n - firstSurrogate < 2048 ∧ firstSurrogate ≤ n then
    some (.surrogate ⟨n - firstSurrogate, h.1⟩)
  else none

def isSurrogate : CodePoint → Bool
  | .char _ => false
  | .surrogate _ => true

end CodePoint

def codePoints (cs : List Char) : List CodePoint := cs.map .char

def codePointsOf (s : String) : List CodePoint := codePoints s.toList

def splitSurrogate : List CodePoint → List Char × List CodePoint
  | .char c :: rest => let (cs, rest) := splitSurrogate rest; (c :: cs, rest)
  | rest => ([], rest)

end TableQuery.Text
