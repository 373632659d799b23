import JobGate.Bytes
import JobGate.Decimal.Layout
import JobGate.Json.Basic
import JobGate.Text.Utf8

/-!
# The text of a JSON document

Documents are written without blanks, members in their order. In strings a quote, a backslash and
the controls below U+0020 are escaped, all else is written as it is.
-/
namespace JobGate.Json

/-- One character inside a string. -/
def escapeChar (c : Char) : List Char :=
  if c == '"' then ['\\', '"']
  else if c == '\\' then ['\\', '\\']
  else if c.toNat == 0x8 then ['\\', 'b']
  else if c.toNat == 0xC then ['\\', 'f']
  else if c == '\n' then ['\\', 'n']
  else if c == '\r' then ['\\', 'r']
  else if c == '\t' then ['\\', 't']
  else if c.toNat < 0x20 then
    ['\\', 'u', '0', '0', Bytes.hexChar (c.toNat / 16), Bytes.hexChar (c.toNat % 16)]
  else [c]

/-- A string between its quotes. -/
def writeString (s : String) : List Char := '"' :: s.toList.flatMap escapeChar ++ ['"']

/-- A whole number in decimal digits. -/
def writeInt (n : Int) : List Char :=
  if n < 0 then '-' :: Nat.toDigits 10 n.natAbs else Nat.toDigits 10 n.natAbs

/-- A number: digits for a whole one, the shortest decimal for a double. -/
def writeNumber : Number → List Char
  | .whole n => writeInt n
  | .double x => (DecimalLayout.document.write x).toList

mutual
def chars : Json → List Char
  | .null => ['n', 'u', 'l', 'l']
  | .bool true => ['t', 'r', 'u', 'e']
  | .bool false => ['f', 'a', 'l', 's', 'e']
  | .number n => writeNumber n
  | .string s => writeString s
  | .array items => '[' :: charsItems items ++ [']']
  | .object members => Char.ofNat 0x7B :: charsMembers members ++ [Char.ofNat 0x7D]
/-- The characters of items between their brackets. -/
def charsItems : List Json → List Char
  | [] => []
  | [v] => chars v
  | v :: w :: rest => chars v ++ ',' :: charsItems (w :: rest)
/-- The characters of members between their braces. -/
def charsMembers : List (String × Json) → List Char
  | [] => []
  | [(k, v)] => writeString k ++ ':' :: chars v
  | (k, v) :: next :: rest => writeString k ++ ':' :: chars v ++ ',' :: charsMembers (next :: rest)
end

def text (v : Json) : String := String.ofList v.chars

/-- The octets of the text of a document. -/
def bytes (v : Json) : Bytes := Utf8.encode v.text

end JobGate.Json
