import Typings.Tools.ByteClass

/-! # Wildcards

Patterns that stand for texts: an asterisk stands for any bytes, a question mark for one byte, and
brackets for one of the bytes in them. A pattern comes from bytes of which some are quoted and stand
for themselves.

A pattern is matched by following all the ways through it at once, so that the time taken does not
depend on the asterisks in it.
-/

namespace Typings.Tools.Shell

/-- A byte, and whether it is quoted. -/
abbrev Glyph : Type := UInt8 × Bool

/-- A member of brackets. -/
inductive SetItem where
  | range (first last : UInt8)
  | named (c : ByteClass)
  deriving DecidableEq, Repr

/-- What stands for bytes in a pattern. -/
inductive Wildcard where
  | byte (b : UInt8)
  | anyByte
  | anyBytes
  | oneOf (negated : Bool) (items : List SetItem)
  deriving DecidableEq, Repr

namespace Wildcard

/-- The item contains the byte. -/
def SetItem.contains (b : UInt8) : SetItem → Bool
  | .range first last => first ≤ b && b ≤ last
  | .named c => c.contains b

/-- The pattern stands for a single byte, and for this one. -/
def accepts (b : UInt8) : Wildcard → Bool
  | byte expected => b == expected
  | anyByte => true
  | anyBytes => false
  | oneOf negated items => items.any (SetItem.contains b) != negated

/-- A character that is not quoted. -/
def plain (c : Char) (g : Glyph) : Bool := !g.2 && g.1.toNat == c.toNat

/-- The class that is named behind an opening bracket and a colon, and what follows it. -/
def class? (glyphs : List Glyph) : Option (ByteClass × List Glyph) :=
  let name := glyphs.takeWhile fun g => ByteClass.alpha.contains g.1
  match glyphs.drop name.length with
  | colon :: bracket :: rest =>
    if plain ':' colon && plain ']' bracket then
      (ByteClass.ofName? (name.map (·.1))).map fun c => (c, rest)
    else none
  | _ => none

/-- Reads the members of brackets, behind those read before. A closing bracket that comes first is a
member. There are none if the brackets are not closed. -/
def readItems (isFirst : Bool) (before : List SetItem) :
    Nat → List Glyph → Option (List SetItem × List Glyph)
  | 0, _ | _, [] => none
  | limit + 1, g :: rest =>
    if plain ']' g && !isFirst then some (before, rest)
    else
      let ofClass? := match rest with
        | colon :: rest => if plain '[' g && plain ':' colon then class? rest else none
        | [] => none
      match ofClass?, rest with
      | some (c, rest), _ => readItems false (.named c :: before) limit rest
      | none, hyphen :: last :: after =>
        if plain '-' hyphen && !plain ']' last then
          readItems false (.range g.1 last.1 :: before) limit after
        else readItems false (.range g.1 g.1 :: before) limit rest
      | none, _ => readItems false (.range g.1 g.1 :: before) limit rest

/-- Reads a pattern. An opening bracket without a closing one stands for itself, and so does a byte
behind a backslash. -/
def read : Nat → List Glyph → List Wildcard
  | 0, _ | _, [] => []
  | limit + 1, g :: rest =>
    if plain '*' g then .anyBytes :: read limit rest
    else if plain '?' g then .anyByte :: read limit rest
    else if plain '[' g then
      let (negated, inside) := match rest with
        | mark :: inside => if plain '!' mark then (true, inside) else (false, rest)
        | [] => (false, rest)
      match readItems true [] (inside.length + 1) inside with
      | some (items, rest) => .oneOf negated items :: read limit rest
      | none => .byte g.1 :: read limit rest
    else if plain '\\' g then
      match rest with
      | escaped :: rest => .byte escaped.1 :: read limit rest
      | [] => [.byte g.1]
    else .byte g.1 :: read limit rest

/-- The pattern that glyphs are. -/
def ofGlyphs (glyphs : List Glyph) : List Wildcard := read (glyphs.length + 1) glyphs

/-- Some byte in the glyphs stands for others. -/
def isPattern (glyphs : List Glyph) : Bool :=
  glyphs.any fun g => plain '*' g || plain '?' g || plain '[' g

/-! ## Matching -/

/-- What can be left of a pattern when nothing more has been read. -/
def openings : List Wildcard → List (List Wildcard)
  | .anyBytes :: rest => (.anyBytes :: rest) :: openings rest
  | pattern => [pattern]

/-- The rests of a pattern without those that occur before. Rests of one length are the same. -/
def distinct : List (List Wildcard) → List (List Wildcard)
  | [] => []
  | p :: rest =>
    if rest.any (·.length == p.length) then distinct rest else p :: distinct rest

/-- What can be left of a pattern after one more byte. -/
def advance (b : UInt8) (rests : List (List Wildcard)) : List (List Wildcard) :=
  distinct <| rests.flatMap fun
    | [] => []
    | .anyBytes :: rest => openings (.anyBytes :: rest)
    | w :: rest => if w.accepts b then openings rest else []

/-- The lengths of the beginnings of a text that a pattern stands for, longest first. -/
def lengthsFrom (taken : Nat) (found : List Nat) (rests : List (List Wildcard)) : Bytes → List Nat
  | [] => if rests.any (·.isEmpty) then taken :: found else found
  | b :: text =>
    if rests.isEmpty then found
    else
      let found := if rests.any (·.isEmpty) then taken :: found else found
      lengthsFrom (taken + 1) found (advance b rests) text

/-- The lengths of the beginnings of a text that a pattern stands for, longest first. -/
def lengths (pattern : List Wildcard) (text : Bytes) : List Nat :=
  lengthsFrom 0 [] (openings pattern) text

/-- What can be left of a pattern after a text. -/
def remaining (rests : List (List Wildcard)) : Bytes → List (List Wildcard)
  | [] => rests
  | b :: text => if rests.isEmpty then [] else remaining (advance b rests) text

/-- The pattern stands for the text. -/
def isMatch (pattern : List Wildcard) (text : Bytes) : Bool :=
  (remaining (openings pattern) text).any (·.isEmpty)

/-- The text without a beginning that the pattern stands for. -/
def withoutStart (pattern : List Wildcard) (longest : Bool) (text : Bytes) : Bytes :=
  let found := lengths pattern text
  match if longest then found.head? else found.getLast? with
  | some length => text.drop length
  | none => text

/-- The text without an end that the pattern stands for. -/
def withoutEnd (pattern : List Wildcard) (longest : Bool) (text : Bytes) : Bytes :=
  (withoutStart pattern.reverse longest text.reverse).reverse

/-- The arguments without a beginning that the pattern stands for. They count as one text, of which
the pattern sees the first argument; if it stands for all of that, the longest beginning is
everything. -/
def withoutFirst (pattern : List Wildcard) (longest : Bool) : List Bytes → List Bytes
  | [] => []
  | [argument] => [withoutStart pattern longest argument]
  | first :: rest =>
    if longest && isMatch pattern first then [[]] else withoutStart pattern longest first :: rest

/-- The pattern stands for an end of the text. -/
def isEnd (pattern : List Wildcard) (text : Bytes) : Bool :=
  !(lengths pattern.reverse text.reverse).isEmpty

/-- The arguments, last one first, without an end of the last one that has such an end, and without
those behind it. -/
def withoutLast? (pattern : List Wildcard) : List Bytes → Option (List Bytes)
  | [] => none
  | last :: before =>
    if isEnd pattern last then some (withoutEnd pattern false last :: before)
    else withoutLast? pattern before

/-- The arguments without an end that the pattern stands for. The pattern sees one argument at a
time, and what is behind it goes as well. The longest end is looked for in the first argument only.
-/
def withoutRest (pattern : List Wildcard) (longest : Bool) (arguments : List Bytes) : List Bytes :=
  if longest then
    match arguments with
    | first :: rest =>
      if isEnd pattern first then [withoutEnd pattern true first] else first :: rest
    | [] => []
  else ((withoutLast? pattern arguments.reverse).getD arguments.reverse).reverse

end Wildcard

end Typings.Tools.Shell
