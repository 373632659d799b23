import JobGate.Job
import JobGate.Text.Classes

/-!
# Pointers into documents

A pointer is the list of the keys and indices on the way to a value. Its text puts a slash before
each, with `~1` for a slash and `~0` for a tilde inside them; one `#` in front of the text is
allowed and dropped.
-/
namespace JobGate

/-- The keys and indices on the way to a value, outermost first. -/
abbrev Pointer := List String

namespace Pointer

/-- A token with its escapes resolved; none where a tilde is no escape. -/
def unescape : List Char → Option (List Char)
  | [] => some []
  | '~' :: '0' :: rest => (unescape rest).map ('~' :: ·)
  | '~' :: '1' :: rest => (unescape rest).map ('/' :: ·)
  | c :: rest => if c == '~' then none else (unescape rest).map (c :: ·)

/-- A token as its text spells it. -/
def escape (token : String) : List Char :=
  token.toList.flatMap fun c =>
    if c == '~' then ['~', '0'] else if c == '/' then ['~', '1'] else [c]

def text (p : Pointer) : String := String.ofList (p.flatMap fun token => '/' :: escape token)

/-- The tokens of a text after the slash that opens it. -/
def tokens? (cs : List Char) : Option Pointer :=
  (splitWhere (· == '/') cs).mapM fun token => (unescape token).map String.ofList

def parse (s : String) : Decoded Pointer :=
  let cs := match s.toList with
    | '#' :: rest => rest
    | cs => cs
  match cs with
  | [] => .ok []
  | '/' :: rest =>
    match tokens? rest with
    | some p => .ok p
    | none => .error (.pointerEscape s)
  | _ => .error (.pointerStart s)

/-- The digits of an index: no sign, and no zero before another digit. -/
def index? (token : String) : Option Nat :=
  match token.toList with
  | ['0'] => some 0
  | '0' :: _ => none
  | [] => none
  | cs =>
    if cs.all Char.isDigit then some (cs.foldl (fun n c => n * 10 + (c.toNat - 0x30)) 0) else none

/-- The index of an item in a list of `length` items. -/
def indexBelow? (token : String) (length : Nat) : Option Nat :=
  (index? token).filter (· < length)

/-- The value that a pointer leads to. -/
def resolve? : Pointer → Json → Option Json
  | [], v => some v
  | token :: rest, .object members => (Members.get? token members).bind (resolve? rest)
  | token :: rest, .array items => ((index? token).bind (items[·]?)).bind (resolve? rest)
  | _ :: _, _ => none

/-- Whether the second pointer leads to a place inside the value that the first leads to. -/
def isInside (outer inner : Pointer) : Bool := outer.isPrefixOf inner && outer.length < inner.length

end Pointer
end JobGate
