import Typings.Tools.Edit.Machine

/-! # Running editing scripts

A script runs once for every line: the line is taken in, the commands are followed, and what the
line has become is printed. The machine goes on by small steps, one command or the end of a cycle at
a time.
-/

namespace Typings.Tools.Edit

namespace Machine

/-! ## Selecting lines -/

/-- The pattern that is used, which is remembered. -/
def usePattern (m : Machine) : Option Matcher → Option Matcher × Machine
  | some p => (some p, { m with lastPattern := some p })
  | none => (m.lastPattern, { m with lacksPattern := m.lastPattern.isNone })

def isAt (m : Machine) (mode : Mode) : Address → Bool × Machine
  | .line n => (m.number == n, m)
  | .every first step => (first ≤ m.number && (m.number - first) % step == 0, m)
  | .last => m.isLast mode
  | .matching p =>
    match m.usePattern p with
    | (none, m) => (false, m)
    | (some p, m) => (p.isIn m.pattern.text, m)

/-- Notes where a range stands. -/
def setRange (m : Machine) (index : Nat) (s : RangeState) : Machine :=
  { m with ranges := m.ranges.setIfInBounds index s }

/-- Begins a range at the line. A range that ends before it begins has one line. A range that begins
at a line with a number does not need that very line. -/
def beginRange (m : Machine) (mode : Mode) (index : Nat) (first : Address) :
    RangeEnd → Bool × Machine
  | .address (.line stop) =>
    if stop ≤ m.number then
      let (isFirst, m) := m.isAt mode first
      (m.number ≤ stop || isFirst, m.setRange index .closed)
    else (true, m.setRange index (.active (some stop)))
  | .address (.matching _) => (true, m.setRange index (.active none))
  | .address stop =>
    let (isStop, m) := m.isAt mode stop
    (true, m.setRange index (if isStop then .closed else .active none))
  | .after n =>
    (true, m.setRange index (if n = 0 then .closed else .active (some (m.number + n))))
  | .multipleOf n =>
    let stop := m.number + n - m.number % n
    (true, m.setRange index (if n = 0 then .closed else .active (some stop)))

/-- Goes on with a range that has begun. -/
def continueRange (m : Machine) (mode : Mode) (index : Nat) (stop : Option Nat) :
    RangeEnd → Bool × Machine
  | .address (.line n) =>
    let n := stop.getD n
    (m.number ≤ n, if n ≤ m.number then m.setRange index .closed else m)
  | .address a =>
    let (isStop, m) := m.isAt mode a
    (true, if isStop then m.setRange index .closed else m)
  | .after _ | .multipleOf _ =>
    (true, if stop.any (· ≤ m.number) then m.setRange index .closed else m)

/-- The line belongs to the range of a command. -/
def isInRange (m : Machine) (mode : Mode) (index : Nat) (first : Address) (stop : RangeEnd) :
    Bool × Machine :=
  match m.ranges.getD index .waiting, first with
  | .active n, _ => m.continueRange mode index n stop
  | .closed, .line _ => (false, m)
  | .waiting, .line n =>
    if m.number < n then (false, m) else m.beginRange mode index first stop
  | _, first =>
    let (isFirst, m) := m.isAt mode first
    if isFirst then m.beginRange mode index first stop else (false, m)

/-- The line is one that a command is for. -/
def selects (m : Machine) (mode : Mode) (index : Nat) (s : Selection) : Bool × Machine :=
  let (isSelected, m) := match s.first, s.stop with
    | none, _ => (true, m)
    | some first, none => m.isAt mode first
    | some first, some stop => m.isInRange mode index first stop
  (isSelected != s.negated, m)

/-! ## Substitution -/

/-- A letter in some casing. A byte that is no character has no case, and is lost. -/
def recase (casing : Casing) (b : UInt8) : UInt8 :=
  match casing with
  | .asIs => b
  | .upper => if 127 < b then 255 else upperByte b
  | .lower => if 127 < b then 255 else lowerByte b

/-- A text in some lettering. -/
def Lettering.apply (l : Lettering) : Bytes → Bytes
  | [] => []
  | b :: rest => recase (l.first.getD l.all) b :: rest.map (recase l.all)

/-- The text of a replacement for what has been found. The lettering of a first letter that meets no
text is kept for the next piece. -/
def replacementText (text : Array UInt8) (found : Found) (carried : Option Casing) :
    List Piece → Bytes
  | [] => []
  | piece :: pieces =>
    let own := piece.lettering.first
    let lettering := { piece.lettering with first := own.or carried }
    let shown := Lettering.apply lettering piece.text
    let lettering := if piece.text.isEmpty then lettering else { lettering with first := none }
    match piece.group with
    | none =>
      let carried := if piece.text.isEmpty then lettering.first else none
      shown ++ replacementText text found carried pieces
    | some number =>
      let group :=
        if number = 0 then (text.extract found.start found.stop).toList
        else (Matcher.stretch text found.marks number).getD []
      let carried := if group.isEmpty && own.isSome then lettering.first else none
      shown ++ Lettering.apply lettering group ++ replacementText text found carried pieces

/-- A line in the middle of a substitution. -/
structure Progress where
  /-- What has been written, last piece first. -/
  written : List Bytes := []
  /-- The number of matches so far. -/
  found : Nat := 0
  replaced : Bool := false

/-- Replaces matches from a position on. An empty match right behind the last match does not count.
Every match, and every byte that is passed for its sake, shortens the rest. -/
def replaceMatches (p : Matcher) (s : Substitution) (text : Array UInt8) :
    Nat → Nat → Option Nat → Bytes → Progress → Progress
  | 0, _, _, rest, progress => { progress with written := rest :: progress.written }
  | limit + 1, position, lastStop, rest, progress =>
    match p.find? text position rest with
    | none => { progress with written := rest :: progress.written }
    | some found =>
      let before := rest.take (found.start - position)
      let matched := (rest.drop (found.start - position)).take (found.stop - found.start)
      let after := rest.drop (found.stop - position)
      let isEmpty := found.stop == found.start
      let counts := !(isEmpty && lastStop == some found.start)
      let number := if counts then progress.found + 1 else progress.found
      let wanted := counts && (number == s.number || (s.global && s.number ≤ number))
      let shown := if wanted then replacementText text found none s.replacement else matched
      let progress : Progress :=
        { written := shown :: before :: progress.written
          found := number
          replaced := progress.replaced || wanted }
      if wanted && !s.global then { progress with written := after :: progress.written }
      else if isEmpty then
        match after with
        | [] => progress
        | b :: after =>
          let progress := { progress with written := [b] :: progress.written }
          replaceMatches p s text limit (found.stop + 1) (some found.stop) after progress
      else replaceMatches p s text limit found.stop (some found.stop) after progress

/-- Replaces what a pattern matches in the text. -/
def substitute (m : Machine) (mode : Mode) (s : Substitution) : Machine :=
  match m.usePattern s.pattern with
  | (none, m) => m
  | (some p, m) =>
    let text := m.pattern.text
    let progress := replaceMatches p s text.toArray (text.length + 2) 0 none text {}
    if !progress.replaced then m
    else
      let line := m.pattern.withText progress.written.reverse.flatten
      let m := { m with pattern := line, replaced := true }
      let m := if s.prints then m.writeLine mode line else m
      match s.target with
      | none => m
      | some target => m.writeTo mode line target

/-! ## Plain print-outs -/

/-- How a byte is shown plainly. -/
def plainByte (b : UInt8) : Bytes :=
  match b with
  | 92 => [92, 92]
  | 7 => [92, 97]
  | 8 => [92, 98]
  | 12 => [92, 102]
  | 10 => [92, 110]
  | 13 => [92, 114]
  | 9 => [92, 116]
  | 11 => [92, 118]
  | b =>
    if ByteClass.print.contains b then [b]
    else [92, 48 + b / 64, 48 + b / 8 % 8, 48 + b % 8]

/-- A text with every byte shown plainly, in lines of a width. -/
def plainText (ending : UInt8) (width column : Nat) : Bytes → Bytes
  | [] => [36, ending]
  | b :: rest =>
    let shown := plainByte b
    if 0 < width && width ≤ column + shown.length then
      92 :: ending :: shown ++ plainText ending width shown.length rest
    else shown ++ plainText ending width (column + shown.length) rest

/-! ## Commands -/

/-- Ends a cycle: prints the text unless it is not wanted, and begins with the next line. -/
def endCycle (m : Machine) (mode : Mode) (prints : Bool) : Machine :=
  let m := if prints && !mode.quiet then m.writeLine mode m.pattern else m
  { m.takeLine mode false with next := 0 }

/-- Ends the run, after the end of the cycle if there is to be one. A file that is edited in place
ends there. -/
def quit (m : Machine) (mode : Mode) (code : Nat) (endsCycle : Bool) : Machine :=
  let m :=
    if !endsCycle then m
    else
      let m := if mode.quiet then m else m.writeLine mode m.pattern
      (m.flush mode).writeWith (·.settle mode.ending)
  let m := m.finishEdit mode
  if m.ended.isSome then m else { m with ended := some (code % 256) }

/-- The part of the text up to the end of its first line, and the part behind it. -/
def splitFirstLine (ending : UInt8) (text : Bytes) : Bytes × Option Bytes :=
  let first := text.takeWhile (· != ending)
  (first, if first.length < text.length then some (text.drop (first.length + 1)) else none)

/-- The first line of the text. If nothing follows it, it has an ending when the text has one. -/
def firstLine (ending : UInt8) (space : Space) : Space :=
  let (text, rest) := splitFirstLine ending space.text
  .of text (rest.isSome || space.ended)

/-- Does what a command asks for with a line that is selected. -/
def perform (m : Machine) (mode : Mode) (script : Script) (index : Nat) (action : Action) :
    Machine :=
  match action with
  | .openBlock _ | .closeBlock | .label => m
  | .jump condition name =>
    let taken := match condition with
      | .always => true
      | .replaced => m.replaced
      | .notReplaced => !m.replaced
    let m := if condition == .always then m else { m with replaced := false }
    if taken then
      { m with next := (script.labels.lookup name).getD script.commands.size }
    else m
  | .append text => { m with queue := .text text :: m.queue }
  | .insert text => m.insert mode text
  | .change text =>
    let isInside := match m.ranges.getD index .waiting with
      | .active _ => true
      | _ => false
    (if isInside then m else m.insert mode text).endCycle mode false
  | .delete => m.endCycle mode false
  | .deleteFirstLine =>
    match splitFirstLine mode.ending m.pattern.text with
    | (_, none) => m.endCycle mode false
    | (_, some rest) => { m.flush mode with pattern := m.pattern.withText rest, next := 0 }
  | .print => m.writeLine mode m.pattern
  | .printFirstLine => m.writeLine mode (firstLine mode.ending m.pattern)
  | .printNumber => m.write mode (bytesOf (toString m.number) ++ [mode.ending])
  | .printName => m.write mode (bytesOf m.source ++ [mode.ending])
  | .printPlain width =>
    m.write mode (plainText mode.ending (width.getD mode.width) 0 m.pattern.text)
  | .copyToHold => { m with hold := m.pattern }
  | .appendToHold => { m with hold := m.hold.add mode.ending m.pattern }
  | .copyFromHold => { m with pattern := m.hold }
  | .appendFromHold => { m with pattern := m.pattern.add mode.ending m.hold }
  | .exchange => { m with pattern := m.hold, hold := m.pattern }
  | .next =>
    match m.isLast mode with
    | (true, m) => m.endCycle mode true
    | (false, m) =>
      (if mode.quiet then m else m.writeLine mode m.pattern).takeLine mode false
  | .appendNext =>
    match m.isLast mode with
    | (true, m) => m.endCycle mode true
    | (false, m) => m.takeLine mode true
  | .quit code endsCycle => m.quit mode code endsCycle
  | .readFile name => { m with queue := .file name :: m.queue }
  | .readFileBefore name =>
    match m.contentOf mode name with
    | none => m
    | some text => m.write mode text
  | .readLine name => m.queueLine mode name
  | .writeFile target => m.writeTo mode m.pattern target
  | .writeFirstLine target => m.writeTo mode (firstLine mode.ending m.pattern) target
  | .substitute s => m.substitute mode s
  | .transliterate table =>
    let text := m.pattern.text.map fun b => table.getD b.toNat b
    { m with pattern := m.pattern.withText text }
  | .clear => { m with pattern := m.pattern.withText [] }

/-- Goes on by one command or, behind the last one, by the end of a cycle. -/
def step (m : Machine) (mode : Mode) (script : Script) : Machine :=
  match script.commands[m.next]? with
  | none => m.endCycle mode true
  | some command =>
    let index := m.next
    let (isSelected, m) := m.selects mode index command.selection
    let past := match command.action with
      | .openBlock past => if isSelected then index + 1 else past
      | _ => index + 1
    let m := { m with next := past }
    let m := if isSelected then m.perform mode script index command.action else m
    if m.lacksPattern then m.stop 1 else m

/-- Goes on by at most a number of steps, until the run has ended. -/
def run (mode : Mode) (script : Script) : Nat → Machine → Machine
  | 0, m => m
  | limit + 1, m => if m.ended.isSome then m else run mode script limit (m.step mode script)

end Machine

/-- How many steps a run may take. A script that goes round in circles is given up. -/
def stepLimit : Nat := 1000000000

/-- Runs a script on a machine that has not taken in a line yet. -/
def Script.run (script : Script) (mode : Mode) (m : Machine) : Machine :=
  Machine.run mode script stepLimit (m.takeLine mode false)

end Typings.Tools.Edit
