import JobGate.Json.Basic

/-!
# YAML nodes

A document is a tree of scalars, lists and maps. A scalar written without quotes may stand for
something else than its text: nothing, a truth value, or a number.
-/
namespace JobGate

/-- A node of a document. A scalar is plain when it is written without quotes. -/
inductive Yaml where
  | scalar (plain : Bool) (text : String)
  | list (items : List Yaml)
  | map (entries : List (Yaml × Yaml))
  deriving Inhabited

/-- What a plain scalar stands for. -/
inductive PlainValue where
  | null
  | bool (b : Bool)
  /-- A whole number from -2^63 to 2^64 - 1. -/
  | whole (n : Int)
  /-- A whole number beyond these, from -2^127 to 2^128 - 1. -/
  | wide
  | double (x : Binary64)
  /-- An infinity, or no number. -/
  | nonFinite
  | text (s : String)
  deriving DecidableEq

namespace PlainValue

/-- The digit's value in a base up to sixteen. -/
def digit? (base : Nat) (c : Char) : Option Nat :=
  let v :=
    if c.isDigit then c.toNat - 0x30
    else if 'a' ≤ c && c ≤ 'f' then c.toNat - 0x61 + 10
    else if 'A' ≤ c && c ≤ 'F' then c.toNat - 0x41 + 10
    else base
  if v < base then some v else none

/-- The number that digits in a base write; there is at least one. -/
def natural? (base : Nat) (cs : List Char) : Option Nat :=
  if cs.isEmpty then none
  else cs.foldlM (fun n c => (digit? base c).map fun d => n * base + d) 0

/-- A sign that is dropped or kept, and what follows it. -/
def splitSign : List Char → Bool × List Char
  | '-' :: rest => (true, rest)
  | '+' :: rest => (false, rest)
  | cs => (false, cs)

/-- Digits with a needless zero in front. -/
def hasZeroPrefix (cs : List Char) : Bool :=
  cs.head? == some '0' && 1 < cs.length && cs.all Char.isDigit

/-- The magnitude of a whole number: decimal digits, or digits after `0x`, `0o` or `0b`. -/
def magnitude? : List Char → Option Nat
  | '0' :: 'x' :: rest => natural? 16 rest
  | '0' :: 'o' :: rest => natural? 8 rest
  | '0' :: 'b' :: rest => natural? 2 rest
  | cs => if hasZeroPrefix cs then none else natural? 10 cs

def whole? (cs : List Char) : Option Int :=
  let (negative, cs) := splitSign cs
  (magnitude? cs).map fun (n : Nat) => if negative then -(n : Int) else n

/-- The exponent of a decimal: nothing, or a letter, a sign and digits. -/
def exponent? : List Char → Option Int
  | [] => some 0
  | c :: rest =>
    if c == 'e' || c == 'E' then whole (splitSign rest) else none
where
  /-- The exponent after its letter. -/
  whole : Bool × List Char → Option Int
  | (negative, digits) =>
    (natural? 10 digits).map fun (n : Nat) => if negative then -(n : Int) else n

/-- The double nearest to a decimal. Exponents far out of range are not computed with. -/
def nearest (negative : Bool) (digits : Nat) (count : Nat) (exponent : Int) : Option Binary64 :=
  if digits == 0 || exponent + count < -400 then some (Binary64.zero negative)
  else if 400 < exponent + count then none
  else Binary64.ofDecimal negative digits exponent

/-- A decimal: digits with a point, of which there is at least one digit, and an exponent. -/
def double? (cs : List Char) : Option Binary64 := do
  let (negative, cs) := splitSign cs
  let whole := cs.takeWhile Char.isDigit
  let rest := cs.dropWhile Char.isDigit
  let (fraction, rest) := match rest with
    | '.' :: rest => (rest.takeWhile Char.isDigit, rest.dropWhile Char.isDigit)
    | rest => ([], rest)
  let digits ← natural? 10 (whole ++ fraction)
  let exponent ← exponent? rest
  nearest negative digits (whole ++ fraction).length (exponent - fraction.length)

/-- The spellings of nothing. -/
def nulls : List String := ["", "~", "null", "Null", "NULL"]

/-- The spellings of truth values. -/
def bools : List (String × Bool) :=
  [("true", true), ("True", true), ("TRUE", true), ("false", false), ("False", false),
    ("FALSE", false)]

/-- The spellings of infinities and of no number. -/
def nonFinites : List String :=
  [".inf", ".Inf", ".INF", "+.inf", "+.Inf", "+.INF", "-.inf", "-.Inf", "-.INF", ".nan", ".NaN",
    ".NAN"]

/-- What the text of a plain scalar stands for. -/
def ofText (s : String) : PlainValue :=
  if nulls.contains s then .null
  else match bools.lookup s with
    | some b => .bool b
    | none =>
      if nonFinites.contains s then .nonFinite
      else
        let number := match double? s.toList with
          | some x => if hasZeroPrefix (splitSign s.toList).2 then .text s else .double x
          | none => .text s
        match whole? s.toList with
        | some n =>
          if -0x8000000000000000 ≤ n && n < 0x10000000000000000 then .whole n
          else if -0x80000000000000000000000000000000 ≤ n &&
              n < 0x100000000000000000000000000000000 then .wide
          else number
        | none => number

end PlainValue

namespace Yaml

/-- The node that stands where nothing is written. -/
def nothing : Yaml := .scalar true ""

/-- The text of a scalar, whatever it stands for. -/
def text? : Yaml → Option String
  | .scalar _ s => some s
  | _ => none

/-- What a scalar stands for; a quoted one is its text. -/
def value? : Yaml → Option PlainValue
  | .scalar true s => some (.ofText s)
  | .scalar false s => some (.text s)
  | _ => none

/-- The truth value of a plain scalar. -/
def bool? (node : Yaml) : Option Bool :=
  match node.value? with
  | some (.bool b) => some b
  | _ => none

/-- The items of a list; none are in a place where nothing is written. -/
def items? : Yaml → Option (List Yaml)
  | .list items => some items
  | .scalar true "" => some []
  | _ => none

/-- The entries of a map; none are in a place where nothing is written. -/
def entries? : Yaml → Option (List (Yaml × Yaml))
  | .map entries => some entries
  | .scalar true "" => some []
  | _ => none

/-- The text of a key that stands for a text. -/
def keyText? (key : Yaml) : Option String :=
  match key.value? with
  | some (.text s) => some s
  | _ => none

/-- The document of what a scalar stands for. -/
def scalarJson? : PlainValue → Option Json
  | .null | .nonFinite => some .null
  | .bool b => some (.bool b)
  | .whole n => some (Json.ofInt n)
  | .wide => none
  | .double x => some (.number (.double x))
  | .text s => some (.string s)

mutual
/-- The node as a document: keys must be texts, and of equal keys the last counts. -/
def toJson? : Yaml → Option Json
  | .scalar true s => scalarJson? (.ofText s)
  | .scalar false s => some (.string s)
  | .list items => (itemsJson? items).map .array
  | .map entries => (entriesJson? entries).map fun pairs => .object (Members.ofPairs pairs)
def itemsJson? : List Yaml → Option (List Json)
  | [] => some []
  | v :: rest => do return (← toJson? v) :: (← itemsJson? rest)
/-- Entries as members, repeated keys included. -/
def entriesJson? : List (Yaml × Yaml) → Option (List (String × Json))
  | [] => some []
  | (k, v) :: rest => do return (← keyText? k, ← toJson? v) :: (← entriesJson? rest)
end

end Yaml
end JobGate
