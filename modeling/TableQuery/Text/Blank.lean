/-!
# Blanks

`isBlank` holds of the white space of Unicode and of the four ASCII separators. `strip` takes
blanks off both ends of a text and leaves those inside.
-/

namespace TableQuery.Text

/-- White space of any script, with the file, group, record and unit separators. -/
def isBlank (c : Char) : Bool :=
  let n := c.toNat
  (9 ≤ n && n ≤ 13) || (28 ≤ n && n ≤ 32) || n == 0x85 || n == 0xA0 || n == 0x1680 ||
    (0x2000 ≤ n && n ≤ 0x200A) || n == 0x2028 || n == 0x2029 || n == 0x202F || n == 0x205F ||
    n == 0x3000

def stripChars (cs : List Char) : List Char :=
  ((cs.dropWhile isBlank).reverse.dropWhile isBlank).reverse

def strip (s : String) : String := String.ofList (stripChars s.toList)

end TableQuery.Text
