import JobGate.Json.Numeral
import JobGate.Text.Utf8

/-!
# Reading the text of a document

`Document.read` reads octets into a draft. Every function below consumes the front of the text and
returns what follows; nothing follows a breach. The recursion is bounded by a count that twice the
length of the text covers: between two steps at the same place stands at least one octet.
-/
namespace JobGate

namespace Reader

/-- A blank between the parts of a document. -/
def isSpace (o : UInt8) : Bool := o == 0x20 || o == 0x0A || o == 0x0D || o == 0x09

/-- The text after the blanks at its front. -/
def skipSpace (b : Bytes) : Bytes := b.dropWhile isSpace

/-! ## Strings -/

/-- Where a string ends: at its closing quote, or at a breach. -/
inductive StringEnd where
  | closed (text : Except SyntaxError String) (rest : Bytes)
  | broken (breach : Breach)

/-- The octet that a backslash and a letter stand for. -/
def escaped? (o : UInt8) : Option UInt8 :=
  if o == 0x22 || o == 0x5C || o == 0x2F then some o
  else if o == 0x62 then some 0x08
  else if o == 0x66 then some 0x0C
  else if o == 0x6E then some 0x0A
  else if o == 0x72 then some 0x0D
  else if o == 0x74 then some 0x09
  else none

/-- The number that four hexadecimal digits spell. -/
def hexFour? (a b c d : UInt8) : Option Nat := do
  let a ← Bytes.hexDigit? a
  let b ← Bytes.hexDigit? b
  let c ← Bytes.hexDigit? c
  let d ← Bytes.hexDigit? d
  return ((a * 16 + b) * 16 + c) * 16 + d

/-- The first half of a surrogate pair. -/
def isHighSurrogate (n : Nat) : Bool := 0xD800 ≤ n && n ≤ 0xDBFF

/-- The second half of a surrogate pair. -/
def isLowSurrogate (n : Nat) : Bool := 0xDC00 ≤ n && n ≤ 0xDFFF

/-- What follows the four digits of a first half. -/
inductive SecondHalf where
  /-- The second half, and what follows it. -/
  | pair (low : Nat) (rest : Bytes)
  /-- Another escape of four digits. -/
  | other
  /-- No such escape. -/
  | missing
  /-- The text ends, or its digits are none. -/
  | cut

/-- Looks for the second half of a surrogate pair. -/
def secondHalf : Bytes → SecondHalf
  | [] => .cut
  | o :: rest =>
    if o != 0x5C then .missing
    else match rest with
      | [] => .cut
      | u :: digits =>
        if u != 0x75 then .missing
        else match digits with
          | a :: b :: c :: d :: rest =>
            match hexFour? a b c d with
            | none => .cut
            | some n => if isLowSurrogate n then .pair n rest else .other
          | _ => .cut

/-- The text of the octets collected, unless a fault was met before. -/
def finishString (fault : Option SyntaxError) (acc : Bytes) : Except SyntaxError String :=
  match fault with
  | some e => .error e
  | none => match Utf8.decode? acc.reverse with
    | some s => .ok s
    | none => .error .invalidCodePoint

/-- Reads a string up to its closing quote, with the octets before `rest` reversed in `acc` and
the first fault met that only matters to a reader of the string. -/
def readString (fault : Option SyntaxError) (acc : Bytes) : Bytes → StringEnd
  | [] => .broken ⟨fault.getD .endInString, .endInString⟩
  | o :: rest =>
    if o == 0x22 then .closed (finishString fault acc) rest
    else if o == 0x5C then
      match rest with
      | [] => .broken ⟨fault.getD .endInString, .endInString⟩
      | e :: rest =>
        if e == 0x75 then
          match rest with
          | a :: b :: c :: d :: rest =>
            match hexFour? a b c d with
            | none => .broken ⟨fault.getD .invalidEscape, .invalidEscape⟩
            | some n =>
              if isLowSurrogate n then readString (fault <|> some .loneSurrogate) acc rest
              else if isHighSurrogate n then
                match rest, secondHalf rest with
                | _ :: _ :: _ :: _ :: _ :: _ :: rest, .pair low _ =>
                  let c := Char.ofNat (0x10000 + (n - 0xD800) * 0x400 + (low - 0xDC00))
                  readString fault ((Utf8.encodeChar c).reverse ++ acc) rest
                | rest, .other => readString (fault <|> some .loneSurrogate) acc rest
                | rest, .missing => readString (fault <|> some .endOfHexEscape) acc rest
                | rest, _ => readString fault acc rest
              else readString fault ((Utf8.encodeChar (Char.ofNat n)).reverse ++ acc) rest
          | _ => .broken ⟨fault.getD .endInString, .endInString⟩
        else match escaped? e with
          | some c => readString fault (c :: acc) rest
          | none => .broken ⟨fault.getD .invalidEscape, .invalidEscape⟩
    else if o < 0x20 then .broken ⟨fault.getD .controlCharacter, .controlCharacter⟩
    else readString fault (o :: acc) rest

/-! ## Numbers -/

/-- The digits at the front, and what follows them. -/
def readDigits (b : Bytes) : List Nat × Bytes :=
  ((b.takeWhile Bytes.isDigit).map fun o => o.toNat - 0x30, b.dropWhile Bytes.isDigit)

/-- The breach where a digit is wanted. -/
def wantsDigit (b : Bytes) : Breach :=
  if b.isEmpty then ⟨.endInValue, .invalidNumber⟩ else .both .invalidNumber

/-- The digits before the point: a zero alone, or digits that do not start with one. -/
def readWhole (b : Bytes) : Except Breach (List Nat × Bytes) :=
  match readDigits b with
  | ([], _) => .error (wantsDigit b)
  | (0 :: _ :: _, _) => .error (.both .invalidNumber)
  | (digits, rest) => .ok (digits, rest)

/-- The fraction, if a point follows. -/
def readFraction : Bytes → Except Breach (Option (List Nat) × Bytes)
  | [] => .ok (none, [])
  | o :: b =>
    if o != 0x2E then .ok (none, o :: b)
    else match readDigits b with
      | ([], _) => .error (wantsDigit b)
      | (digits, rest) => .ok (some digits, rest)

/-- The sign of an exponent, and what follows it. -/
def readSign : Bytes → Bool × Bytes
  | [] => (false, [])
  | o :: b => if o == 0x2B then (false, b) else if o == 0x2D then (true, b) else (false, o :: b)

/-- The exponent, if its letter follows. -/
def readExponent : Bytes → Except Breach (Option (Bool × List Nat) × Bytes)
  | [] => .ok (none, [])
  | o :: b =>
    if o != 0x65 && o != 0x45 then .ok (none, o :: b)
    else
      let (down, b) := readSign b
      match readDigits b with
      | ([], _) => .error (wantsDigit b)
      | (digits, rest) => .ok (some (down, digits), rest)

/-- A numeral after its sign. -/
def readNumeral (negative : Bool) (b : Bytes) : Except Breach (Numeral × Bytes) := do
  let (whole, b) ← readWhole b
  let (fraction, b) ← readFraction b
  let (exponent, b) ← readExponent b
  return (⟨negative, whole, fraction, exponent⟩, b)

/-! ## Values -/

/-- The text after the letters of a word, which are wanted next. -/
def readWord : List UInt8 → Bytes → Except SyntaxError Bytes
  | [], b => .ok b
  | _ :: _, [] => .error .endInValue
  | w :: word, o :: b => if o == w then readWord word b else .error .expectedIdent

/-- A draft, and what follows it unless it ends in a breach. -/
abbrev Reading := Draft × Option Bytes

/-- A reading that ends in a breach. -/
def Reading.broken (b : Breach) : Reading := (.broken b, none)

/-- A word for a value. -/
def readConstant (word : List UInt8) (value : Draft) (b : Bytes) : Reading :=
  match readWord word b with
  | .ok rest => (value, some rest)
  | .error e => .broken (.both e)

def readNumber (negative : Bool) (b : Bytes) : Reading :=
  match readNumeral negative b with
  | .ok (n, rest) => (.number n.value, some rest)
  | .error breach => .broken breach

/-- The items read so far, the breach after them, and what follows the closing bracket. -/
abbrev ItemsReading := List Draft × Option Breach × Option Bytes

/-- The members read so far, the breach after them, and what follows the closing brace. -/
abbrev MembersReading := List (Except SyntaxError String × Draft) × Option Breach × Option Bytes

mutual
def readValue : Nat → Bytes → Reading
  | 0, _ => .broken (.both .endInValue)
  | fuel + 1, b =>
    match skipSpace b with
    | [] => .broken (.both .endInValue)
    | o :: rest =>
      if o == 0x6E then readConstant [0x75, 0x6C, 0x6C] .null rest
      else if o == 0x74 then readConstant [0x72, 0x75, 0x65] (.bool true) rest
      else if o == 0x66 then readConstant [0x61, 0x6C, 0x73, 0x65] (.bool false) rest
      else if o == 0x2D then readNumber true rest
      else if Bytes.isDigit o then readNumber false (o :: rest)
      else if o == 0x22 then
        match readString none [] rest with
        | .closed s rest => (.string s, some rest)
        | .broken breach => .broken breach
      else if o == 0x5B then
        match readFirstItem fuel rest with
        | (items, breach, after) => (.array items breach, after)
      else if o == 0x7B then
        match readFirstMember fuel rest with
        | (members, breach, after) => (.object members breach, after)
      else .broken (.both .expectedValue)
/-- Reads the items after the opening bracket. -/
def readFirstItem : Nat → Bytes → ItemsReading
  | 0, _ => ([], some (.both .endInList), none)
  | fuel + 1, b =>
    match skipSpace b with
    | [] => ([], some (.both .endInList), none)
    | o :: rest => if o == 0x5D then ([], none, some rest) else readItem fuel [] (o :: rest)
/-- Reads an item and those after it, with the items before it reversed in `acc`. -/
def readItem : Nat → List Draft → Bytes → ItemsReading
  | 0, acc, _ => (acc.reverse, some (.both .endInList), none)
  | fuel + 1, acc, b =>
    match readValue fuel b with
    | (item, none) => ((item :: acc).reverse, none, none)
    | (item, some b) =>
      match skipSpace b with
      | [] => ((item :: acc).reverse, some (.both .endInList), none)
      | o :: rest =>
        if o == 0x5D then ((item :: acc).reverse, none, some rest)
        else if o == 0x2C then
          match skipSpace rest with
          | [] => readItem fuel (item :: acc) []
          | next :: rest =>
            if next == 0x5D then
              ((item :: acc).reverse, some ⟨.trailingComma, .expectedValue⟩, none)
            else readItem fuel (item :: acc) (next :: rest)
        else ((item :: acc).reverse, some (.both .expectedCommaOrBracket), none)
/-- Reads the members after the opening brace. -/
def readFirstMember : Nat → Bytes → MembersReading
  | 0, _ => ([], some (.both .endInObject), none)
  | fuel + 1, b =>
    match skipSpace b with
    | [] => ([], some (.both .endInObject), none)
    | o :: rest =>
      if o == 0x7D then ([], none, some rest)
      else if o == 0x22 then readMember fuel [] rest
      else ([], some (.both .keyNotString), none)
/-- Reads a member after the quote that opens its key, and those after it. -/
def readMember : Nat → List (Except SyntaxError String × Draft) → Bytes → MembersReading
  | 0, acc, _ => (acc.reverse, some (.both .endInObject), none)
  | fuel + 1, acc, b =>
    match readString none [] b with
    | .broken breach => (acc.reverse, some breach, none)
    | .closed key b =>
      match skipSpace b with
      | [] => (((key, .broken (.both .endInObject)) :: acc).reverse, none, none)
      | o :: rest =>
        if o != 0x3A then (((key, .broken (.both .expectedColon)) :: acc).reverse, none, none)
        else match readValue fuel rest with
          | (value, none) => (((key, value) :: acc).reverse, none, none)
          | (value, some b) =>
            match skipSpace b with
            | [] => (((key, value) :: acc).reverse, some (.both .endInObject), none)
            | o :: rest =>
              if o == 0x7D then (((key, value) :: acc).reverse, none, some rest)
              else if o == 0x2C then
                match skipSpace rest with
                | [] => (((key, value) :: acc).reverse, some ⟨.endInValue, .endInObject⟩, none)
                | next :: rest =>
                  if next == 0x22 then readMember fuel ((key, value) :: acc) rest
                  else if next == 0x7D then
                    (((key, value) :: acc).reverse, some ⟨.trailingComma, .keyNotString⟩, none)
                  else (((key, value) :: acc).reverse, some (.both .keyNotString), none)
              else (((key, value) :: acc).reverse, some (.both .expectedCommaOrBrace), none)
end

end Reader

/-- A text as a document: the draft of its first value, and whether something other than blanks
follows it. -/
structure Document where
  draft : Draft
  trailing : Bool

def Document.read (b : Bytes) : Document :=
  match Reader.readValue (2 * b.length + 2) b with
  | (draft, none) => ⟨draft, false⟩
  | (draft, some rest) => ⟨draft, !(Reader.skipSpace rest).isEmpty⟩

/-- A value is a whole document of its own. -/
def Document.ofJson (v : Json) : Document := ⟨v.toDraft, false⟩

end JobGate
