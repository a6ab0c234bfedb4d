import Typings.Text.Printable

/-! # Quoted text

The way a message shows a text it found: between double quotes, with a short escape for the
commonest controls and a numbered escape for every character that is not printable.
-/

namespace Typings.Text

/-- The spelling of one character inside quotes. -/
def escapeForDisplay (c : Char) : List Char :=
  if c = '"' then ['\\', '"']
  else if c = '\\' then ['\\', '\\']
  else if c = '\n' then ['\\', 'n']
  else if c = '\r' then ['\\', 'r']
  else if c = '\t' then ['\\', 't']
  else if c.toNat = 0 then ['\\', '0']
  else if isPrintable c then [c]
  else "\\u\x7b".toList ++ Nat.toDigits 16 c.toNat ++ ['\x7d']

/-- The text between double quotes. -/
def quoteForDisplay (s : String) : String :=
  String.ofList ('"' :: s.toList.flatMap escapeForDisplay ++ ['"'])

end Typings.Text
