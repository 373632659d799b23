import JobGate.Bytes
import JobGate.Yaml.Node

/-!
# Reading scalars

A cursor stands in a text at a line and a column. Scalars are plain, quoted, or blocks of indented
lines; where one goes on over several lines a single break is a blank, and each further one a
line break.
-/
namespace JobGate.Yaml

/-- A place in a text, and the anchors that were set before it. -/
structure Cursor where
  rest : List Char
  line : Nat := 0
  column : Nat := 0
  /-- Only spaces stand before the place on its line. -/
  fresh : Bool := true
  anchors : List (String × Yaml) := []

/-- A space or a tab. -/
def isGap (c : Char) : Bool := c == ' ' || c == '\t'

/-- The text ends here, or a space, a tab or a line break follows. -/
def endsToken : List Char → Bool
  | [] => true
  | c :: _ => isGap c || c == '\n'

/-- A mark that has a meaning inside brackets and braces. -/
def isFlowMark (c : Char) : Bool := c == ',' || c == '[' || c == ']' || c == '{' || c == '}'

/-- The mark of a document: three hyphens or three points. -/
def isMark (mark : Char) : List Char → Bool
  | a :: b :: c :: rest => a == mark && b == mark && c == mark && endsToken rest
  | _ => false

namespace Cursor

/-- Moves over `n` characters of the line. -/
def advance (n : Nat) (c : Cursor) : Cursor :=
  { c with rest := c.rest.drop n, column := c.column + n, fresh := false }

/-- A mark of a document stands here. -/
def atMark (c : Cursor) : Bool :=
  c.column == 0 && (isMark '-' c.rest || isMark '.' c.rest)

/-- The document ends here. -/
def atEnd (c : Cursor) : Bool := c.rest.isEmpty || c.atMark

/-- Moves over spaces, line breaks and comments, and over tabs where they are allowed: on the line
on which the cursor stands if `tabs`, and on the lines after it if `flow`. -/
def skipFrom (flow : Bool) (anchors : List (String × Yaml)) :
    (tabs comment fresh : Bool) → List Char → Nat → Nat → Cursor
  | _, _, fresh, [], line, column => ⟨[], line, column, fresh, anchors⟩
  | tabs, comment, fresh, c :: rest, line, column =>
    if c == '\n' then skipFrom flow anchors flow false true rest (line + 1) 0
    else if comment || c == ' ' || (tabs && c == '\t') then
      skipFrom flow anchors tabs comment fresh rest line (column + 1)
    else if c == '#' then skipFrom flow anchors tabs true fresh rest line (column + 1)
    else ⟨c :: rest, line, column, fresh, anchors⟩

/-- Moves to the next token outside brackets; no tab may stand before the first token of a line. -/
def skip (tabs : Bool) (c : Cursor) : Cursor :=
  skipFrom false c.anchors (tabs && !c.fresh) false c.fresh c.rest c.line c.column

/-- Moves to the next token inside brackets. -/
def skipFlow (c : Cursor) : Cursor :=
  skipFrom true c.anchors true false c.fresh c.rest c.line c.column

end Cursor

/-- The characters that a break of `n` lines stands for. -/
def folded (n : Nat) : List Char := if n == 1 then [' '] else List.replicate (n - 1) '\n'

/-- A text without spaces and tabs at its end. -/
def trimGapEnd (cs : List Char) : List Char := (cs.reverse.dropWhile isGap).reverse

/-! ## Plain scalars -/

/-- A plain scalar may start here. -/
def startsPlain (flow : Bool) : List Char → Bool
  | [] => false
  | c :: rest =>
    if c == '-' then !endsToken rest
    else if c == '?' || c == ':' then !flow && !endsToken rest
    else !(isGap c || c == '\n' || isFlowMark c
      || ['#', '&', '*', '!', '|', '>', '\'', '"', '%', '@', Char.ofNat 0x60].contains c)

/-- Splits off what belongs to a plain scalar on this line. -/
def plainLine (flow : Bool) : List Char → List Char × List Char
  | [] => ([], [])
  | c :: rest =>
    let endsKey := c == ':' && (endsToken rest || (flow && (rest.head?.map isFlowMark).getD false))
    if c == '\n' || endsKey || (flow && isFlowMark c) || (isGap c && rest.head? == some '#') then
      ([], c :: rest)
    else
      let (taken, rest) := plainLine flow rest
      (c :: taken, rest)

/-- Moves over line breaks and the blanks that begin lines, and counts the breaks. A tab must not
stand before column `least`. -/
def skipBreaks (least : Nat) :
    List Char → Nat → Nat → Nat → Option (Nat × List Char × Nat × Nat)
  | [], breaks, line, column => some (breaks, [], line, column)
  | c :: rest, breaks, line, column =>
    if c == '\n' then skipBreaks least rest (breaks + 1) (line + 1) 0
    else if c == ' ' then skipBreaks least rest breaks line (column + 1)
    else if c == '\t' then
      if column < least then none else skipBreaks least rest breaks line (column + 1)
    else some (breaks, c :: rest, line, column)

/-- Reads the further lines of a plain scalar; they must not start before column `least`. -/
def plainLines (flow : Bool) (least : Nat) :
    Nat → List Char → Cursor → Option (List Char × Cursor)
  | 0, text, c => some (text, c)
  | fuel + 1, text, c =>
    if c.rest.head? != some '\n' then some (text, c)
    else do
      let (breaks, rest, line, column) ← skipBreaks least c.rest 0 c.line c.column
      let next : Cursor := { c with rest, line, column }
      let (taken, rest) := plainLine flow rest
      if next.atEnd || next.rest.head? == some '#' || column < least || taken.isEmpty then
        return (text, c)
      plainLines flow least fuel (text ++ folded breaks ++ trimGapEnd taken)
        { next with rest, column := column + taken.length, fresh := false }

/-- Reads the part of a plain scalar on this line. -/
def readPlainLine (flow : Bool) (c : Cursor) : Option (List Char × Cursor) :=
  if !startsPlain flow c.rest then none
  else
    let (taken, rest) := plainLine flow c.rest
    some (trimGapEnd taken, { c with rest, column := c.column + taken.length, fresh := false })

def readPlain (flow : Bool) (least : Nat) (c : Cursor) : Option (Yaml × Cursor) := do
  let (text, c) ← readPlainLine flow c
  let (text, c) ← plainLines flow least c.rest.length text c
  return (.scalar true (String.ofList text), c)

/-! ## Quoted scalars -/

/-- What stands between two parts of a quoted scalar. -/
inductive Gap where
  /-- Spaces and tabs, the last one first. -/
  | blanks (cs : List Char)
  /-- Line breaks. -/
  | breaks (n : Nat)
  /-- An escaped line break, and further ones. -/
  | joined (n : Nat)

/-- The characters that a gap stands for, the last one first. -/
def Gap.chars : Gap → List Char
  | .blanks cs => cs
  | .breaks n => folded n
  | .joined n => List.replicate n '\n'

/-- The gap with one more space or tab. -/
def Gap.blank (c : Char) : Gap → Gap
  | .blanks cs => .blanks (c :: cs)
  | gap => gap

/-- The gap with one more line break. -/
def Gap.break : Gap → Gap
  | .blanks _ => .breaks 1
  | .breaks n => .breaks (n + 1)
  | .joined n => .joined (n + 1)

/-- The character that an escape of one letter stands for. -/
def shortEscape? (c : Char) : Option Char :=
  ([('0', 0x0), ('a', 0x7), ('b', 0x8), ('t', 0x9), ('\t', 0x9), ('n', 0xA), ('v', 0xB), ('f', 0xC),
    ('r', 0xD), ('e', 0x1B), (' ', 0x20), ('"', 0x22), ('/', 0x2F), ('\\', 0x5C), ('N', 0x85),
    ('_', 0xA0), ('L', 0x2028), ('P', 0x2029)].lookup c).map Char.ofNat

/-- How many hexadecimal digits follow the letter of an escape. -/
def hexLength? (c : Char) : Option Nat :=
  [('x', 2), ('u', 4), ('U', 8)].lookup c

/-- The character with a number, if there is one. -/
def charOf? (n : Nat) : Option Char :=
  if n < 0xD800 || (0xDFFF < n && n < 0x110000) then some (Char.ofNat n) else none

/-- Reads an escape after its backslash: the character and how long the escape is. -/
def readEscape (cs : List Char) : Option (Char × Nat) := do
  let letter ← cs.head?
  match shortEscape? letter, hexLength? letter with
  | some c, _ => return (c, 1)
  | none, some n =>
    let digits := (cs.drop 1).take n
    if digits.length < n then none
    else return (← (PlainValue.natural? 16 digits).bind charOf?, n + 1)
  | none, none => none

/-- Reads on in a scalar in double quotes. -/
def doubleQuoted : Nat → List Char → Gap → Cursor → Option (List Char × Cursor)
  | 0, _, _, _ => none
  | fuel + 1, acc, gap, c =>
    if c.atMark then none
    else match c.rest with
    | [] => none
    | '"' :: _ => some ((gap.chars ++ acc).reverse, c.advance 1)
    | '\n' :: rest =>
      doubleQuoted fuel acc gap.break { c with rest, line := c.line + 1, column := 0 }
    | '\\' :: '\n' :: rest =>
      doubleQuoted fuel (gap.chars ++ acc) (.joined 0)
        { c with rest, line := c.line + 1, column := 0 }
    | '\\' :: rest => do
      let (escaped, length) ← readEscape rest
      doubleQuoted fuel (escaped :: gap.chars ++ acc) (.blanks []) (c.advance (length + 1))
    | d :: _ =>
      if isGap d then doubleQuoted fuel acc (gap.blank d) (c.advance 1)
      else doubleQuoted fuel (d :: gap.chars ++ acc) (.blanks []) (c.advance 1)

/-- Reads on in a scalar in single quotes. -/
def singleQuoted : Nat → List Char → Gap → Cursor → Option (List Char × Cursor)
  | 0, _, _, _ => none
  | fuel + 1, acc, gap, c =>
    if c.atMark then none
    else match c.rest with
    | [] => none
    | '\'' :: '\'' :: _ =>
      singleQuoted fuel ('\'' :: gap.chars ++ acc) (.blanks []) (c.advance 2)
    | '\'' :: _ => some ((gap.chars ++ acc).reverse, c.advance 1)
    | '\n' :: rest =>
      singleQuoted fuel acc gap.break { c with rest, line := c.line + 1, column := 0 }
    | d :: _ =>
      if isGap d then singleQuoted fuel acc (gap.blank d) (c.advance 1)
      else singleQuoted fuel (d :: gap.chars ++ acc) (.blanks []) (c.advance 1)

def readQuoted (c : Cursor) : Option (Yaml × Cursor) := do
  let fuel := c.rest.length + 1
  let read := if c.rest.head? == some '"' then doubleQuoted else singleQuoted
  let (text, c) ← read fuel [] (.blanks []) (c.advance 1)
  return (.scalar false (String.ofList text), { c with fresh := false })

/-! ## Block scalars -/

/-- What becomes of the line breaks at the end of a block scalar. -/
inductive Chomping where
  | clip
  | strip
  | keep
  deriving DecidableEq

/-- The header of a block scalar. -/
structure BlockHeader where
  folds : Bool
  chomping : Chomping := .clip
  /-- How far the block is indented, if the header says so. -/
  indent : Option Nat := none

/-- Reads the marks of a header up to the end of its line. -/
def readHeader (header : BlockHeader) : List Char → Option (BlockHeader × List Char)
  | [] => some (header, [])
  | c :: rest =>
    if c == '\n' then some (header, c :: rest)
    else if (c == '+' || c == '-') && header.chomping == .clip then
      readHeader { header with chomping := if c == '+' then .keep else .strip } rest
    else if c.isDigit && c != '0' && header.indent.isNone then
      readHeader { header with indent := some (c.toNat - 0x30) } rest
    else if isGap c then
      match rest.dropWhile isGap with
      | [] => some (header, [])
      | '\n' :: rest => some (header, '\n' :: rest)
      | '#' :: rest => some (header, rest.dropWhile (· != '\n'))
      | _ => none
    else none

/-- The place of a line in a block: the breaks before it, the indentation, and the column where it
starts. -/
structure BlockLine where
  breaks : Nat
  indent : Nat
  column : Nat
  line : Nat
  rest : List Char

/-- Moves over empty lines and the indentation of the next one. Where the indentation is not known
yet it is that of this line, and at least `least`. -/
def nextBlockLine (known : Option Nat) (least : Nat) :
    List Char → Nat → Nat → Nat → Nat → Option BlockLine
  | [], breaks, line, column, widest =>
    some ⟨breaks, known.getD (max (max widest column) least), column, line, []⟩
  | c :: rest, breaks, line, column, widest =>
    let inIndent := match known with | some n => column < n | none => true
    if c == ' ' && inIndent then nextBlockLine known least rest breaks line (column + 1) widest
    else if c == '\t' && inIndent then none
    else if c == '\n' then
      nextBlockLine known least rest (breaks + 1) (line + 1) 0 (max widest column)
    else some ⟨breaks, known.getD (max (max widest column) least), column, line, c :: rest⟩

/-- What has been read of a block scalar. -/
structure BlockText where
  text : List Char := []
  /-- The last line was ended by a break. -/
  ended : Bool := false
  /-- The last line starts with a blank. -/
  blank : Bool := false

/-- The text with a further line after some empty ones. -/
def BlockText.add (folds : Bool) (breaks : Nat) (line : List Char) (ended : Bool)
    (t : BlockText) : BlockText :=
  let blank := (line.head?.map isGap).getD false
  let joint :=
    if !t.ended then List.replicate breaks '\n'
    else if folds && !t.blank && !blank then folded (breaks + 1)
    else List.replicate (breaks + 1) '\n'
  ⟨t.text ++ joint ++ line, ended, blank⟩

/-- The text at the end of a block, after some empty lines. -/
def BlockText.finish (chomping : Chomping) (breaks : Nat) (t : BlockText) : List Char :=
  match chomping with
  | .strip => t.text
  | .clip => t.text ++ if t.ended then ['\n'] else []
  | .keep => t.text ++ (if t.ended then ['\n'] else []) ++ List.replicate breaks '\n'

def blockLines (header : BlockHeader) :
    Nat → BlockText → BlockLine → Option (List Char × BlockLine)
  | 0, _, _ => none
  | fuel + 1, t, at_ =>
    if at_.column != at_.indent || at_.rest.isEmpty then
      some (t.finish header.chomping at_.breaks, at_)
    else
      let line := at_.rest.takeWhile (· != '\n')
      match at_.rest.dropWhile (· != '\n') with
      | [] => blockLines header fuel (t.add header.folds at_.breaks line false)
          { at_ with breaks := 0, rest := [] }
      | _ :: rest => do
        let next ← nextBlockLine (some at_.indent) 0 rest 0 (at_.line + 1) 0 0
        blockLines header fuel (t.add header.folds at_.breaks line true) next

/-- Reads a block scalar inside a collection at column `parent`. -/
def readBlockScalar (parent : Int) (c : Cursor) : Option (Yaml × Cursor) := do
  let (header, rest) ← readHeader { folds := c.rest.head? == some '>' } (c.rest.drop 1)
  let known := header.indent.map fun n => (max parent 0).toNat + n
  let least := max (parent + 1).toNat 1
  let first ← nextBlockLine known least (rest.drop 1) 0 (c.line + 1) 0 0
  let (text, last) ← blockLines header (rest.length + 2) {} first
  return (.scalar false (String.ofList text),
    { c with rest := last.rest, line := last.line, column := last.column, fresh := true })

end JobGate.Yaml
