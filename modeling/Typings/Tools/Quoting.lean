import Typings.Tools.Basic
import Typings.Tools.ByteClass

/-! # Names in messages

How messages show what a user has written. The name of a file is shown the way a shell would read
it, with quotes only if it needs them; any other argument always stands in quotes, with a backslash
in front of what could be mistaken.
-/

namespace Typings.Tools.Quoting

/-- The letter that stands for a control character behind a backslash. -/
def controlLetter? (b : UInt8) : Option UInt8 :=
  match b with
  | 7 => some 97
  | 8 => some 98
  | 9 => some 116
  | 10 => some 110
  | 11 => some 118
  | 12 => some 102
  | 13 => some 114
  | _ => none

/-- The number of a byte in three octal digits. -/
def octal (b : UInt8) : Bytes := [48 + b / 64, 48 + b / 8 % 8, 48 + b % 8]

/-- What stands behind the backslash for a byte that cannot be shown. -/
def escape? (b : UInt8) : Option Bytes :=
  match controlLetter? b with
  | some letter => some [letter]
  | none => if ByteClass.print.contains b then none else some (octal b)

def argument (written : Bytes) : Bytes :=
  let shown (b : UInt8) : Bytes :=
    match escape? b with
    | some escape => 92 :: escape
    | none => if b = 92 ∨ b = 39 then [92, b] else [b]
  39 :: written.flatMap shown ++ [39]

/-- The signs that mean something to a shell wherever they stand. -/
def shellSigns : Bytes := bytesOf " !\"$&'()*:;<=>?[\\^\x60|"

/-- The name cannot stand in a shell without quotes. -/
def needsQuotes (name : Bytes) : Bool :=
  match name with
  | [] => true
  | first :: rest =>
    first == 35 || first == 126 || (rest.isEmpty && (first == 123 || first == 125)) ||
      name.any fun b => shellSigns.contains b || (escape? b).isSome

/-- A byte that means the same between double quotes as between single ones. -/
def isPlain (b : UInt8) : Bool :=
  b == 32 || b == 39 || ByteClass.alnum.contains b || (bytesOf "%+,-./:@]_").contains b

/-- A name between single quotes, behind the opening one. A single quote and bytes that cannot be
shown interrupt the quotes; `escaping` tells that they are interrupted. -/
def singleQuoted (escaping : Bool) : Bytes → Bytes
  | [] => [39]
  | b :: rest =>
    match escape? b with
    | some escape =>
      (if escaping then [] else bytesOf "'$'") ++ 92 :: escape ++ singleQuoted true rest
    | none =>
      if b = 39 then bytesOf "'\\''" ++ singleQuoted false rest
      else (if escaping then bytesOf "''" else []) ++ b :: singleQuoted false rest

/-- The quotes count as interrupted where a name begins: one with a single quote begins the way it
ends. -/
def beginsInterrupted (name : Bytes) : Bool :=
  name.contains 39 && name.getLast?.any fun b => (escape? b).isSome

/-- A name as it would be written in a shell. -/
def shell (name : Bytes) : Bytes :=
  if !needsQuotes name then name
  else if name.contains 39 &&
      (name.all isPlain || ((name.head?.any fun b => b == 35 || b == 126) &&
        name.tail.all isPlain)) then
    34 :: name ++ [34]
  else 39 :: singleQuoted (beginsInterrupted name) name

end Typings.Tools.Quoting
