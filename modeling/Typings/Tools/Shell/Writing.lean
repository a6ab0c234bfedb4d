import Typings.Tools.Shell.Expression
import Typings.Tools.Shell.Process
import Typings.Json.Double

/-! # Writing

The commands of the shell that write text: `echo`, which writes its arguments, and `printf`, which
fills them into a format. Texts are lists of characters here that stand for a byte each.
-/

namespace Typings.Tools.Shell

open Json (Double)

def byteChars (bytes : Bytes) : List Char := bytes.map fun b => Char.ofNat b.toNat

/-- The bytes of such characters. -/
def charBytes (chars : List Char) : Bytes := chars.map fun c => c.toNat.toUInt8

/-! ## Escapes -/

/-- The character of a byte whose number may be too great for it. -/
def charOf (n : Nat) : Char := Char.ofNat (n % 256)

/-- The characters that a letter behind a backslash stands for. -/
def escapes : List (Char × Nat) :=
  [('\\', 92), ('a', 7), ('b', 8), ('e', 27), ('f', 12), ('n', 10), ('r', 13), ('t', 9), ('v', 11)]

/-- At most three octal digits at the start of a text. -/
def octalDigits (text : List Char) : List Char := (text.take 3).takeWhile Expression.isOctalDigit

/-- The character that the text behind a backslash stands for, and what follows it. -/
def readEscape (text : List Char) : Char × List Char :=
  match text with
  | [] => ('\\', [])
  | c :: rest =>
    let digits := octalDigits text
    if !digits.isEmpty then (charOf (Expression.valueOf 8 digits), text.drop digits.length)
    else
      match escapes.lookup c with
      | some code => (Char.ofNat code, rest)
      | none => ('\\', text)

/-- A text with its escapes replaced, behind what has been replaced before, last character first. An
octal number may begin with a zero that is not one of its digits. The text goes no further than an
escape that ends all output, which is told. -/
def replaceEscapes (before : List Char) : Nat → List Char → List Char × Bool
  | 0, _ => (before.reverse, false)
  | _, [] => (before.reverse, false)
  | _, '\\' :: 'c' :: _ => (before.reverse, true)
  | limit + 1, '\\' :: '0' :: rest =>
    let digits := octalDigits rest
    replaceEscapes (charOf (Expression.valueOf 8 digits) :: before) limit
      (rest.drop digits.length)
  | limit + 1, '\\' :: rest =>
    let (c, rest) := readEscape rest
    replaceEscapes (c :: before) limit rest
  | limit + 1, c :: rest => replaceEscapes (c :: before) limit rest

/-- Writes arguments with blanks between them. -/
def echoText (arguments : List Bytes) : Bytes :=
  let (arguments, endsLine) := match arguments with
    | first :: rest => if first = bytesOf "-n" then (rest, false) else (arguments, true)
    | [] => ([], true)
  let text := byteChars ([32].intercalate arguments)
  let (text, isCut) := replaceEscapes [] (text.length + 1) text
  charBytes text ++ if endsLine && !isCut then [10] else []

/-! ## Numbers -/

/-- What is left to say of an argument as a number. -/
inductive Conversion where
  | whole
  | missing
  | partly
  | outOfRange
  deriving DecidableEq, Repr

/-- What is wrong, in words. -/
def Conversion.message : Conversion → Option String
  | whole => none
  | missing => some "expected numeric value"
  | partly => some "not completely converted"
  | outOfRange => some "Numerical result out of range"

/-- How an argument has been converted, by what is left of it. -/
def Conversion.of (text rest : List Char) (inRange : Bool) : Conversion :=
  if !rest.isEmpty then (if rest.length = text.length then missing else partly)
  else if inRange then whole
  else outOfRange

/-- A sign, and what follows it. -/
def readSign (text : List Char) : Bool × List Char :=
  match text.dropWhile Char.isWhitespace with
  | '-' :: rest => (true, rest)
  | '+' :: rest => (false, rest)
  | rest => (false, rest)

/-- The whole number that an argument is, at least `least` and at most `greatest`. Behind a quote it
is the number of a character. -/
def wholeNumber (least greatest : Int) (argument : Bytes) : Int × Conversion :=
  let text := byteChars argument
  match text with
  | [] => (0, .whole)
  | '"' :: rest | '\'' :: rest => ((rest.headD '\x00').toNat, .whole)
  | _ =>
    let (isNegative, digits) := readSign text
    if !(digits.headD ' ').isDigit then (0, .of text text true)
    else
      let (n, rest) := Expression.readNumber digits
      let n : Int := if isNegative then -n else n
      (max least (min n greatest), .of text rest (least ≤ n ∧ n ≤ greatest))

/-- A number with a fraction. -/
inductive Decimal where
  | finite (d : Double)
  | infinite (negative : Bool)
  | undefined (negative : Bool)

/-- The power of ten that an exponent stands for, and what follows it. -/
def readExponent (text : List Char) : Int × List Char :=
  match text with
  | e :: rest =>
    if e = 'e' ∨ e = 'E' then
      let (isNegative, digits) : Bool × List Char := match rest with
        | '-' :: rest => (true, rest)
        | '+' :: rest => (false, rest)
        | rest => (false, rest)
      let body := digits.takeWhile Char.isDigit
      if body.isEmpty then (0, text)
      else
        let n : Nat := min (Expression.valueOf 10 body) 5000
        (if isNegative then -(n : Int) else n, digits.drop body.length)
    else (0, text)
  | [] => (0, [])

/-- The number that digits with a point and an exponent stand for, and what follows them. -/
def readDecimal (isNegative : Bool) (text : List Char) : Option (Decimal × List Char) :=
  let whole := text.takeWhile Char.isDigit
  let afterWhole := text.drop whole.length
  let (fraction, rest) := match afterWhole with
    | '.' :: rest => (rest.takeWhile Char.isDigit, rest.dropWhile Char.isDigit)
    | rest => ([], rest)
  if whole.isEmpty && fraction.isEmpty then none
  else
    let (power, rest) := readExponent rest
    let digits := Expression.valueOf 10 (whole ++ fraction)
    let power := power - fraction.length
    let (num, den) :=
      if 0 ≤ power then (digits * Nat.pow 10 power.toNat, 1)
      else (digits, Nat.pow 10 (-power).toNat)
    match Double.nearest isNegative num den 0 with
    | some d => some (.finite d, rest)
    | none => some (.infinite isNegative, rest)

/-- Names of numbers that have no digits. -/
def namedDecimal? (isNegative : Bool) (text : List Char) : Option (Decimal × List Char) :=
  let lower := text.map Char.toLower
  if "infinity".toList.isPrefixOf lower then some (.infinite isNegative, text.drop 8)
  else if "inf".toList.isPrefixOf lower then some (.infinite isNegative, text.drop 3)
  else if "nan".toList.isPrefixOf lower then some (.undefined isNegative, text.drop 3)
  else none

def decimalNumber (argument : Bytes) : Decimal × Conversion :=
  let text := byteChars argument
  let zero : Decimal := .finite (Double.zero false)
  match text with
  | [] => (zero, .whole)
  | '"' :: rest | '\'' :: rest =>
    match Double.ofNat false (rest.headD '\x00').toNat with
    | some d => (.finite d, .whole)
    | none => (zero, .whole)
  | _ =>
    let (isNegative, body) := readSign text
    match namedDecimal? isNegative body with
    | some (d, rest) => (d, .of text rest true)
    | none =>
      let hexadecimal := match body with
        | '0' :: x :: d :: _ => (x == 'x' || x == 'X') && Expression.isHexDigit d
        | _ => false
      if hexadecimal then
        let (n, rest) := Expression.readNumber body
        match Double.nearest isNegative n 1 0 with
        | some d => (.finite d, .of text rest true)
        | none => (.infinite isNegative, .of text rest false)
      else
        match readDecimal isNegative body with
        | none => (zero, .of text text true)
        | some (.infinite n, rest) => (.infinite n, .of text rest false)
        | some (d, rest) => (d, .of text rest true)

/-! ## Formats -/

/-- What stands between a percent sign and the letter of a directive. -/
structure Directive where
  flags : List Char := []
  width : Nat := 0
  alignsLeft : Bool := false
  precision : Option Nat := none
  letter : Char := 's'

namespace Directive

def has (d : Directive) (flag : Char) : Bool := d.flags.contains flag

/-- A text at least as wide as the directive asks. Zeros go between a sign and the rest. -/
def pad (d : Directive) (zeros : Bool) (sign body : List Char) : List Char :=
  let missing := d.width - (sign.length + body.length)
  if d.alignsLeft || d.has '-' then sign ++ body ++ List.replicate missing ' '
  else if zeros && d.has '0' then sign ++ List.replicate missing '0' ++ body
  else List.replicate missing ' ' ++ sign ++ body

/-- A text in the form that the directive asks for. -/
def text (d : Directive) (content : List Char) : List Char :=
  d.pad false [] (match d.precision with
    | some n => content.take n
    | none => content)

/-- The sign of a number. -/
def sign (d : Directive) (negative : Bool) : List Char :=
  if negative then ['-'] else if d.has '+' then ['+'] else if d.has ' ' then [' '] else []

/-- Digits, with zeros in front to the number that the precision asks for. -/
def digits (d : Directive) (base n : Nat) : List Char :=
  let digits := Nat.toDigits base n
  match d.precision with
  | none => digits
  | some least =>
    if least = 0 ∧ n = 0 then [] else List.replicate (least - digits.length) '0' ++ digits

/-- A number with a sign. -/
def signed (d : Directive) (n : Int) : List Char :=
  d.pad d.precision.isNone (d.sign (n < 0)) (d.digits 10 n.natAbs)

/-- A number without a sign, to the base that the letter stands for. -/
def unsigned (d : Directive) (n : Nat) : List Char :=
  match d.letter with
  | 'o' =>
    let digits := d.digits 8 n
    let lead := if d.has '#' && digits.head? != some '0' then ['0'] else []
    d.pad d.precision.isNone [] (lead ++ digits)
  | 'x' => hexadecimal "0x".toList (d.digits 16 n)
  | 'X' => hexadecimal "0X".toList ((d.digits 16 n).map Char.toUpper)
  | _ => d.pad d.precision.isNone [] (d.digits 10 n)
where
  hexadecimal (lead digits : List Char) : List Char :=
    d.pad d.precision.isNone (if d.has '#' && n ≠ 0 then lead else []) digits

/-- A finite number as a fraction, sign apart. -/
def fraction (x : Double) : Nat × Nat :=
  if 0 ≤ x.exponent then (x.significand * Nat.pow 2 x.exponent.toNat, 1)
  else (x.significand, Nat.pow 2 (-x.exponent).toNat)

/-- A number with places behind the point. -/
def withPlaces (n places : Nat) (keepsPoint : Bool) : List Char :=
  let digits := Nat.toDigits 10 n
  let digits := List.replicate (places + 1 - digits.length) '0' ++ digits
  let whole := digits.take (digits.length - places)
  whole ++ (if places = 0 && !keepsPoint then [] else '.' :: digits.drop whole.length)

/-- The number rounded to some places behind the point. -/
def positional (x : Double) (places : Nat) (keepsPoint : Bool) : List Char :=
  let (num, den) := fraction x
  withPlaces (Double.roundDiv (num * Nat.pow 10 places) den) places keepsPoint

/-- The number as digits and a power of ten, with as many digits as stated. -/
def scientificDigits (x : Double) (count : Nat) : Nat × Int :=
  if x.isZero then (0, 0)
  else
    let (num, den) := fraction x
    let guess : Int := ((Nat.toDigits 10 num).length : Int) - (Nat.toDigits 10 den).length
    let isBelow (power : Int) : Bool :=
      if 0 ≤ power then num < den * Nat.pow 10 power.toNat
      else num * Nat.pow 10 (-power).toNat < den
    let power := if isBelow guess then guess - 1 else guess
    let shift : Int := (count : Int) - 1 - power
    let digits :=
      if 0 ≤ shift then Double.roundDiv (num * Nat.pow 10 shift.toNat) den
      else Double.roundDiv num (den * Nat.pow 10 (-shift).toNat)
    if digits = Nat.pow 10 count then (digits / 10, power + 1) else (digits, power)

/-- A power of ten, with at least two digits. -/
def exponentText (power : Int) : List Char :=
  let digits := Nat.toDigits 10 power.natAbs
  'e' :: (if power < 0 then '-' else '+') :: (List.replicate (2 - digits.length) '0' ++ digits)

/-- The number with a power of ten. -/
def scientific (x : Double) (places : Nat) (keepsPoint : Bool) : List Char :=
  let (digits, power) := scientificDigits x (places + 1)
  withPlaces digits places keepsPoint ++ exponentText power

/-- The digits without zeros at their end, and without a point that nothing follows. -/
def withoutZeros (text : List Char) : List Char :=
  if !text.contains '.' then text
  else
    match text.reverse.dropWhile (· == '0') with
    | '.' :: rest => rest.reverse
    | rest => rest.reverse

/-- The shorter of the two ways to write a number with some digits. -/
def general (x : Double) (count : Nat) (keepsZeros : Bool) : List Char :=
  let count := max count 1
  let (digits, power) := scientificDigits x count
  let trim (text : List Char) := if keepsZeros then text else withoutZeros text
  if -4 ≤ power ∧ power < count then
    trim (positional x ((count : Int) - 1 - power).toNat keepsZeros)
  else trim (withPlaces digits (count - 1) keepsZeros) ++ exponentText power

/-- A number with a fraction. -/
def decimal (d : Directive) (x : Decimal) : List Char :=
  let recased (text : List Char) := if d.letter.isUpper then text.map Char.toUpper else text
  match x with
  | .infinite negative => d.pad false (d.sign negative) (recased "inf".toList)
  | .undefined negative => d.pad false (d.sign negative) (recased "nan".toList)
  | .finite x =>
    let places := d.precision.getD 6
    let body := match d.letter.toLower with
      | 'f' => positional x places (d.has '#')
      | 'e' => scientific x places (d.has '#')
      | _ => general x places (d.has '#')
    d.pad true (d.sign x.negative) (recased body)

end Directive

/-- A format that is being filled in. -/
structure Filling where
  /-- What has been written, last piece first. -/
  written : List Bytes := []
  arguments : List Bytes
  /-- What is wrong with arguments, last one first. -/
  complaints : List Bytes := []
  usesArguments : Bool := false
  /-- Nothing more is to be written. -/
  isCut : Bool := false
  /-- What is wrong with the format. -/
  fault : Option String := none

namespace Filling

def write (f : Filling) (chars : List Char) : Filling :=
  { f with written := charBytes chars :: f.written }

/-- The next argument, which is empty if there are no more. -/
def next (f : Filling) : Bytes × Filling :=
  match f.arguments with
  | [] => ([], f)
  | a :: rest => (a, { f with arguments := rest, usesArguments := true })

/-- Takes note of what is wrong with an argument. -/
def note (f : Filling) (argument : Bytes) (c : Conversion) : Filling :=
  match c.message with
  | none => f
  | some message => { f with complaints := (argument ++ bytesOf (": " ++ message)) :: f.complaints }

/-- The least and the greatest whole numbers with and without a sign. -/
def signedRange : Int × Int := (Expression.least, Expression.greatest)

/-- The whole numbers that fit 64 bits without a sign, or with one. -/
def unsignedRange : Int × Int := (-0xffffffffffffffff, 0xffffffffffffffff)

/-- The next argument as a whole number. -/
def nextWhole (f : Filling) (range : Int × Int) : Int × Filling :=
  let (argument, f) := f.next
  let (n, c) := wholeNumber range.1 range.2 argument
  (n, f.note argument c)

/-- Reads a number that may be given as an argument, in place of which an asterisk stands. -/
def readSize (f : Filling) (text : List Char) : Int × Filling × List Char :=
  match text with
  | '*' :: rest =>
    let (n, f) := f.nextWhole signedRange
    (n, f, rest)
  | _ =>
    let digits := text.takeWhile Char.isDigit
    (Expression.valueOf 10 digits, f, text.drop digits.length)

/-- Reads a directive behind its percent sign, up to its letter. -/
def readDirective (f : Filling) (text : List Char) : Directive × Filling × List Char :=
  let flags := text.takeWhile "#-+ 0".toList.contains
  let (width, f, rest) := f.readSize (text.drop flags.length)
  let d : Directive := { flags, width := width.natAbs, alignsLeft := decide (width < 0) }
  match rest with
  | '.' :: rest =>
    let (precision, f, rest) := f.readSize rest
    ({ d with precision := if precision < 0 then none else some precision.toNat }, f, rest)
  | _ => (d, f, rest)

/-- Writes an argument as a directive asks. -/
def apply (f : Filling) (d : Directive) : Filling :=
  match d.letter with
  | 's' =>
    let (argument, f) := f.next
    f.write (d.text (byteChars argument))
  | 'b' =>
    let (argument, f) := f.next
    let text := byteChars argument
    let (text, isCut) := replaceEscapes [] (text.length + 1) text
    { f.write (d.text text) with isCut }
  | 'c' =>
    let (argument, f) := f.next
    f.write (d.pad false [] [(byteChars argument).headD '\x00'])
  | 'd' | 'i' =>
    let (n, f) := f.nextWhole signedRange
    f.write (d.signed n)
  | 'o' | 'u' | 'x' | 'X' =>
    let (n, f) := f.nextWhole unsignedRange
    f.write (d.unsigned (Expression.bits n))
  | _ =>
    let (argument, f) := f.next
    let (x, c) := decimalNumber argument
    (f.note argument c).write (d.decimal x)

/-- Fills arguments into a format once. -/
def fill : Nat → Filling → List Char → Filling
  | 0, f, _ | _, f, [] => f
  | limit + 1, f, '%' :: '%' :: rest => fill limit (f.write ['%']) rest
  | limit + 1, f, '%' :: rest =>
    let (d, g, after) := f.readDirective rest
    match after with
    | [] => { g with fault := some "missing format character" }
    | letter :: after =>
      if "bcdiouxXeEfFgGs".toList.contains letter then
        let f := g.apply { d with letter }
        if f.isCut then f else fill limit f after
      else
        let written := '%' :: rest.take (rest.length - after.length)
        { g with fault := some (String.ofList written ++ ": invalid directive") }
  | limit + 1, f, '\\' :: rest =>
    let (c, rest) := readEscape rest
    fill limit (f.write [c]) rest
  | limit + 1, f, c :: rest => fill limit (f.write [c]) rest

/-- Fills arguments into a format, over and over as long as there are any left. -/
def fillAll : Nat → List Char → Filling → Filling
  | 0, _, f => f
  | times + 1, format, f =>
    let g := fill (format.length + 1) f format
    if g.isCut || g.fault.isSome || !g.usesArguments || g.arguments.isEmpty then g
    else fillAll times format g

/-- All that has been written. -/
def output (f : Filling) : Bytes := f.written.reverse.flatten

end Filling

def fillFormat (format : Bytes) (arguments : List Bytes) : Filling :=
  Filling.fillAll (arguments.length + 1) (byteChars format) { arguments }

end Typings.Tools.Shell
