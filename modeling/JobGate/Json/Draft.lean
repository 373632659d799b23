import JobGate.Bytes
import JobGate.Json.Basic

/-!
# Documents as far as they can be read

Reading a document stops at the first thing wrong with it, and which thing that is depends on the
reader: one that wants a number reports a string it meets before the syntax error further on, and
one that passes over a value does not look inside its strings. So a text is first read into a
`Draft`, which is the document up to the first syntax error, with the error in its place. Faults
that only matter to a reader who looks inside a string or number stay with it.
-/
namespace JobGate

/-- What can be wrong with the text of a document. -/
inductive SyntaxError where
  | endInValue
  | endInString
  | endInObject
  | endInList
  | expectedValue
  | expectedIdent
  | invalidNumber
  | numberOutOfRange
  | expectedColon
  | expectedCommaOrBrace
  | expectedCommaOrBracket
  | keyNotString
  | trailingComma
  | trailingCharacters
  | controlCharacter
  | invalidEscape
  | endOfHexEscape
  | loneSurrogate
  | invalidCodePoint
  | tooDeep
  deriving DecidableEq, Inhabited

def SyntaxError.message : SyntaxError → String
  | .endInValue => "EOF while parsing a value"
  | .endInString => "EOF while parsing a string"
  | .endInObject => "EOF while parsing an object"
  | .endInList => "EOF while parsing a list"
  | .expectedValue => "expected value"
  | .expectedIdent => "expected ident"
  | .invalidNumber => "invalid number"
  | .numberOutOfRange => "number out of range"
  | .expectedColon => "expected `:`"
  | .expectedCommaOrBrace => "expected `,` or `\x7d`"
  | .expectedCommaOrBracket => "expected `,` or `]`"
  | .keyNotString => "key must be a string"
  | .trailingComma => "trailing comma"
  | .trailingCharacters => "trailing characters"
  | .controlCharacter => "control character (\\u0000-\\u001F) found while parsing a string"
  | .invalidEscape => "invalid escape"
  | .endOfHexEscape => "unexpected end of hex escape"
  | .loneSurrogate => "lone leading surrogate in hex escape"
  | .invalidCodePoint => "invalid unicode code point"
  | .tooDeep => "recursion limit exceeded"

/-- A place where the text cannot be read on: what a reader of the value reports there, and what
a reader that passes over it reports. -/
structure Breach where
  read : SyntaxError
  skim : SyntaxError
  deriving DecidableEq

/-- A breach that every reader reports alike. -/
def Breach.both (e : SyntaxError) : Breach := ⟨e, e⟩

/-- A document up to the first place where its text cannot be read on. -/
inductive Draft where
  | null
  | bool (b : Bool)
  | number (n : Except SyntaxError Number)
  | string (s : Except SyntaxError String)
  | array (items : List Draft) (breach : Option Breach)
  | object (members : List (Except SyntaxError String × Draft)) (breach : Option Breach)
  | broken (b : Breach)
  deriving Inhabited

mutual
/-- A document is its own draft. -/
def Json.toDraft : Json → Draft
  | .null => .null
  | .bool b => .bool b
  | .number n => .number (.ok n)
  | .string s => .string (.ok s)
  | .array items => .array (draftItems items) none
  | .object members => .object (draftMembers members) none
def Json.draftItems : List Json → List Draft
  | [] => []
  | v :: rest => toDraft v :: draftItems rest
def Json.draftMembers : List (String × Json) → List (Except SyntaxError String × Draft)
  | [] => []
  | (k, v) :: rest => (.ok k, toDraft v) :: draftMembers rest
end

end JobGate
