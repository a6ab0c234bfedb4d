/-! # Blank characters

A character is blank when it has the Unicode property `White_Space`. Trimming and splitting into
words go by this property and by nothing else: a zero-width space, for instance, is not blank.
-/

namespace Typings.Text

/-- The character has the property `White_Space`. -/
def isBlank (c : Char) : Bool :=
  let n := c.toNat
  (0x9 ≤ n && n ≤ 0xD) || n == 0x20 || n == 0x85 || n == 0xA0 || n == 0x1680 ||
    (0x2000 ≤ n && n ≤ 0x200A) || n == 0x2028 || n == 0x2029 || n == 0x202F || n == 0x205F ||
    n == 0x3000

/-- The text without the blanks at its end. -/
def trimEnd (cs : List Char) : List Char :=
  (cs.reverse.dropWhile isBlank).reverse

/-- The text without the blanks at either end. -/
def trim (cs : List Char) : List Char :=
  trimEnd (cs.dropWhile isBlank)

/-- Some character of the text is not blank. -/
def hasInk (cs : List Char) : Bool :=
  cs.any (!isBlank ·)

/-- The longest runs of characters that are not blank, in order. -/
def words (cs : List Char) : List (List Char) :=
  (cs.splitOnP isBlank).filter (!·.isEmpty)

/-- The text without the blanks at either end. -/
def strip (s : String) : String :=
  String.ofList (trim s.toList)

example : trim " a b\n".toList = "a b".toList := by decide
example : words " a \t b ".toList = ["a".toList, "b".toList] := by decide

end Typings.Text
