import JobGate.Yaml.Cursor

/-!
# Reading YAML

Lists and maps are written by indentation, or in brackets and braces. A key must fit on one line,
and the entries of a map or list start in one column. Anchors name nodes for later use; tags,
directives and keys after a question mark are not read. A text holds at most one document.
-/
namespace JobGate.Yaml

/-- A node and the place after it. -/
abbrev Read := Option (Yaml × Cursor)

/-- A hyphen that begins an item. -/
def startsItem (c : Cursor) : Bool :=
  match c.rest with
  | '-' :: rest => endsToken rest
  | _ => false

/-- A character of an anchor. -/
def isAnchorChar (c : Char) : Bool := c.isAlphanum || c == '_' || c == '-'

/-- Reads the name after the mark of an anchor or of a reference to one. -/
def readName (c : Cursor) : Option (String × Cursor) :=
  let name := (c.rest.drop 1).takeWhile isAnchorChar
  let after := c.advance (name.length + 1)
  let closes := match after.rest with
    | [] => true
    | d :: _ => isGap d || d == '\n' || ['?', ':', ',', ']', Char.ofNat 0x7D, '%', '@'].contains d
  if name.isEmpty || !closes then none else some (String.ofList name, after)

/-- Reads a reference to an anchor. -/
def readAlias (c : Cursor) : Read := do
  let (name, after) ← readName c
  return (← c.anchors.lookup name, after)

def setAnchor (name : String) : Yaml × Cursor → Yaml × Cursor
  | (node, c) => (node, { c with anchors := (name, node) :: c.anchors })

/-! ## Brackets and braces -/

/-- What ends a collection in brackets or braces. -/
inductive Bracket where
  | list
  | map
  deriving DecidableEq

def Bracket.close : Bracket → Char
  | .list => ']'
  | .map => Char.ofNat 0x7D

/-- The collection of entries, the last one first. An entry of a list with a value is a map of its
own. -/
def Bracket.build (bracket : Bracket) (entries : List (Yaml × Option Yaml)) : Yaml :=
  match bracket with
  | .map => .map (entries.reverse.map fun (k, v) => (k, v.getD nothing))
  | .list => .list (entries.reverse.map fun
    | (item, none) => item
    | (k, some v) => .map [(k, v)])

/-- A colon that ends a key inside brackets: one after a plain scalar must stand before a blank. -/
def endsFlowKey (key : Yaml) (c : Cursor) : Bool :=
  match key, c.rest with
  | .scalar true _, ':' :: rest => endsToken rest
  | _, ':' :: _ => true
  | _, _ => false

mutual
/-- Reads a node inside brackets. -/
def flowNode : Nat → Cursor → Read
  | 0, _ => none
  | fuel + 1, c =>
    if c.atMark then none
    else match c.rest with
    | '&' :: _ => do
      let (name, after) ← readName c
      return setAnchor name (← flowNode fuel after.skipFlow)
    | '*' :: _ => readAlias c
    | '"' :: _ | '\'' :: _ => readQuoted c
    | d :: _ =>
      if d == '[' then flowEntries fuel .list [] (c.advance 1)
      else if d.toNat == 0x7B then flowEntries fuel .map [] (c.advance 1)
      else readPlain true 0 c
    | [] => none
/-- Reads the entries of a collection after its opening mark or a comma. -/
def flowEntries : Nat → Bracket → List (Yaml × Option Yaml) → Cursor → Read
  | 0, _, _, _ => none
  | fuel + 1, bracket, entries, c =>
    let c := c.skipFlow
    if c.rest.head? == some bracket.close then
      some (bracket.build entries, c.advance 1)
    else do
      let (key, after) ← flowNode fuel c
      let next := after.skipFlow
      if endsFlowKey key next && next.line == c.line then
        let valueAt := (next.advance 1).skipFlow
        if [',', ']', Char.ofNat 0x7D].contains (valueAt.rest.headD ' ') then
          flowNext fuel bracket ((key, some nothing) :: entries) valueAt
        else
          let (value, after) ← flowNode fuel valueAt
          flowNext fuel bracket ((key, some value) :: entries) after.skipFlow
      else flowNext fuel bracket ((key, none) :: entries) next
/-- Reads on after an entry: a comma or the closing mark. -/
def flowNext : Nat → Bracket → List (Yaml × Option Yaml) → Cursor → Read
  | 0, _, _, _ => none
  | fuel + 1, bracket, entries, c =>
    if c.rest.head? == some ',' then flowEntries fuel bracket entries (c.advance 1)
    else if c.rest.head? == some bracket.close then some (bracket.build entries, c.advance 1)
    else none
end

/-! ## Indentation -/

/-- Reads a key and the colon after it, all on one line. -/
def readKey (fuel : Nat) (c : Cursor) : Read := do
  let (anchor, start) ← match c.rest with
    | '&' :: _ => do
      let (name, after) ← readName c
      pure (some name, after.skip true)
    | _ => pure (none, c)
  let (key, after) ← match start.rest with
    | '*' :: _ => readAlias start
    | '"' :: _ | '\'' :: _ => readQuoted start
    | d :: _ =>
      if d == '[' || d.toNat == 0x7B then flowNode fuel start
      else do
        let (text, after) ← readPlainLine false start
        pure (.scalar true (String.ofList text), after)
    | [] => none
  let colon := { after with
    rest := after.rest.dropWhile isGap
    column := after.column + (after.rest.takeWhile isGap).length }
  match colon.rest with
  | ':' :: rest =>
    if endsToken rest && colon.line == c.line then
      let result := (key, colon.advance 1)
      return match anchor with
        | some name => setAnchor name result
        | none => result
    else none
  | _ => none

mutual
/-- Reads a node in a collection at column `parent`. `keys` says that a list or map may start on
this line, `inMap` that the node is the value of a key. -/
def node : Nat → Int → (keys inMap : Bool) → Cursor → Read
  | 0, _, _, _, _ => none
  | fuel + 1, parent, keys, inMap, c =>
    if keys && startsItem c then items fuel c.column [] c
    else match (if keys then readKey fuel c else none) with
      | some (key, after) => entries fuel c.column [] key after
      | none => match c.rest with
        | '&' :: _ => do
          let (name, after) ← readName c
          return setAnchor name (← value fuel parent false inMap after)
        | '*' :: _ => readAlias c
        | '|' :: _ | '>' :: _ => readBlockScalar parent c
        | '"' :: _ | '\'' :: _ => readQuoted c
        | d :: _ =>
          if d == '[' || d.toNat == 0x7B then flowNode fuel c
          else readPlain false (parent + 1).toNat c
        | [] => none
/-- Reads the value after a colon, a hyphen or an anchor. On the same line, `keys` says whether a
list or map may start there; on a later line one may. -/
def value : Nat → Int → (keys inMap : Bool) → Cursor → Read
  | 0, _, _, _, _ => none
  | fuel + 1, parent, keys, inMap, c =>
    let next := { c with fresh := false }.skip (!keys)
    if next.atEnd then some (nothing, next)
    else if !next.fresh then node fuel parent keys inMap next
    else if parent < next.column then node fuel parent true inMap next
    else if inMap && parent == next.column && startsItem next then
      items fuel next.column [] next
    else some (nothing, next)
/-- Reads the items of a list at a column; the cursor stands at a hyphen. -/
def items : Nat → Nat → List Yaml → Cursor → Read
  | 0, _, _, _ => none
  | fuel + 1, column, read, c => do
    let (item, after) ← value fuel column true false (c.advance 1)
    let read := item :: read
    let next := after.skip true
    let done := (Yaml.list read.reverse, next)
    if next.atEnd || (next.fresh && next.column < column) then return done
    else if !next.fresh || column < next.column then none
    else if startsItem next then items fuel column read next
    else return done
/-- Reads the entries of a map at a column; the cursor stands after the colon of a key. -/
def entries : Nat → Nat → List (Yaml × Yaml) → Yaml → Cursor → Read
  | 0, _, _, _, _ => none
  | fuel + 1, column, read, key, c => do
    let (v, after) ← value fuel column false true c
    let read := (key, v) :: read
    let next := after.skip true
    if next.atEnd || (next.fresh && next.column < column) then
      return (Yaml.map read.reverse, next)
    else if !next.fresh || column < next.column then none
    else
      let (key, after) ← readKey fuel next
      entries fuel column read key after
end

/-! ## Documents -/

/-- The text with every line break written as a line feed. -/
def normalBreaks : List Char → List Char
  | [] => []
  | '\r' :: '\n' :: rest => '\n' :: normalBreaks rest
  | c :: rest => (if c == '\r' || c.toNat == 0x85 then '\n' else c) :: normalBreaks rest

/-- A character that may stand in a text. -/
def isAllowed (c : Char) : Bool :=
  let n := c.toNat
  n == 0x9 || n == 0xA || (0x20 ≤ n && n ≤ 0x7E) || (0xA0 ≤ n && n ≤ 0xFFFD && n != 0xFEFF)
    || 0x10000 ≤ n

/-- What follows a document is empty, but for the mark of its end. -/
def isOver (c : Cursor) : Bool :=
  let c := c.skip true
  let rest := if c.column == 0 && isMark '.' c.rest then ((c.advance 3).skip true).rest else c.rest
  rest.isEmpty

/-- Reads the document at a place, unless there is none. -/
def readDocument (c : Cursor) : Option (Option Yaml) := do
  let fuel := 4 * c.rest.length + 8
  let start := c.skip false
  if start.rest.isEmpty then return none
  let (document, after) ←
    if start.column == 0 && isMark '-' start.rest then
      value fuel (-1) false false (start.advance 3)
    else node fuel (-1) true false start
  if isOver after then return some document else none

/-- Reads a text: its document, if it has one, or nothing if the text is malformed. -/
def read (s : String) : Option (Option Yaml) :=
  let cs := match s.toList with
    | c :: rest => if c.toNat == 0xFEFF then rest else c :: rest
    | [] => []
  let cs := normalBreaks cs
  if cs.all isAllowed then readDocument { rest := cs } else none

end JobGate.Yaml
