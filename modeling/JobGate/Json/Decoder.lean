import JobGate.Json.Reader
import JobGate.Decimal.Layout
import JobGate.Text.Quoted

/-!
# Decoding documents

A decoder turns a draft into a value or reports the first thing wrong, in document order: a value
of the wrong kind where it stands, a breach where the text breaks off, a missing member where its
object ends. Members that nobody asks for are passed over. A text may open 127 arrays and objects
inside one another; a value that is already a document has no such bound.
-/
namespace JobGate

/-- A value where another kind was wanted. -/
inductive Found where
  | null
  | bool (b : Bool)
  | whole (n : Int)
  | double (x : Binary64)
  | string (s : String)
  | list
  | map
  deriving DecidableEq

/-- The words for a value that was not wanted. -/
def Found.describe : Found → String
  | .null => "null"
  | .bool b => "boolean `" ++ (if b then "true" else "false") ++ "`"
  | .whole n => "integer `" ++ toString n ++ "`"
  | .double x => "floating point `" ++ DecimalLayout.document.write x ++ "`"
  | .string s => "string " ++ quoted s
  | .list => "sequence"
  | .map => "map"

/-- Why a document does not decode. -/
inductive DecodeError where
  /-- The text is no document. -/
  | malformed (e : SyntaxError)
  /-- A value of one kind stands where another was wanted. -/
  | mismatch (found : Found) (wanted : String)
  | missingField (name : String)
  | duplicateField (name : String)
  /-- A list has too few or too many items. -/
  | length (n : Nat) (wanted : String)
  | unknownVariant (name : String) (known : List String)
  /-- A pointer does not start with a slash. -/
  | pointerStart (text : String)
  /-- A pointer has a tilde that is no escape. -/
  | pointerEscape (text : String)
  deriving DecidableEq

def DecodeError.message : DecodeError → String
  | .malformed e => e.message
  | .mismatch found wanted => "invalid type: " ++ found.describe ++ ", expected " ++ wanted
  | .missingField name => "missing field `" ++ name ++ "`"
  | .duplicateField name => "duplicate field `" ++ name ++ "`"
  | .length n wanted => "invalid length " ++ toString n ++ ", expected " ++ wanted
  | .unknownVariant name known =>
    "unknown variant `" ++ name ++ "`, expected one of "
      ++ String.intercalate ", " (known.map fun k => "`" ++ k ++ "`")
  | .pointerStart text =>
    "json pointer \"" ++ text ++ "\" is malformed due to missing starting slash"
  | .pointerEscape text => "json pointer \"" ++ text ++ "\" is improperly encoded"

abbrev Decoded := Except DecodeError

/-- How many more arrays and objects may be opened inside one another; `none` is no bound. -/
abbrev Room := Option Nat

/-- Opens an array or object. -/
def Room.enter : Room → Decoded Room
  | none => .ok none
  | some 0 => .error (.malformed .tooDeep)
  | some (n + 1) => .ok (some n)

abbrev Decoder (α : Type) := Room → Draft → Decoded α

namespace Draft

/-- A part of a draft that was read, or the fault that stays with it. -/
def sound {α : Type} : Except SyntaxError α → Decoded α
  | .ok a => .ok a
  | .error e => .error (.malformed e)

/-- Reports the breach, if there is one. -/
def stopAt : Option Breach → Decoded Unit
  | none => .ok ()
  | some b => .error (.malformed b.read)

/-- What stands in the place of the draft. -/
def found : Draft → Decoded Found
  | .null => .ok .null
  | .bool b => .ok (.bool b)
  | .number n => (sound n).map fun
    | .whole n => .whole n
    | .double x => .double x
  | .string s => (sound s).map .string
  | .array _ _ => .ok .list
  | .object _ _ => .ok .map
  | .broken b => .error (.malformed b.read)

/-- Reports that another kind of value was wanted. -/
def unwanted {α : Type} (wanted : String) (d : Draft) : Decoded α := do
  throw (.mismatch (← d.found) wanted)

mutual
/-- Passes over a value: only what makes the text unreadable is reported. -/
def skim : Draft → Decoded Unit
  | .array items breach => do skimItems items; skimEnd breach
  | .object members breach => do skimMembers members; skimEnd breach
  | .broken b => .error (.malformed b.skim)
  | _ => .ok ()
def skimItems : List Draft → Decoded Unit
  | [] => .ok ()
  | d :: rest => do skim d; skimItems rest
def skimMembers : List (Except SyntaxError String × Draft) → Decoded Unit
  | [] => .ok ()
  | (_, d) :: rest => do skim d; skimMembers rest
/-- Passes over the end of a list or object. -/
def skimEnd : Option Breach → Decoded Unit
  | none => .ok ()
  | some b => .error (.malformed b.skim)
end

mutual
/-- Decodes any document. -/
def toJson : Room → Draft → Decoded Json
  | _, .null => .ok .null
  | _, .bool b => .ok (.bool b)
  | _, .number n => (sound n).map .number
  | _, .string s => (sound s).map .string
  | room, .array items breach => do
    let inner ← room.enter
    let items ← toJsonItems inner items
    stopAt breach
    return .array items
  | room, .object members breach => do
    let inner ← room.enter
    let pairs ← toJsonMembers inner members
    stopAt breach
    return .object (Members.ofPairs pairs)
  | _, .broken b => .error (.malformed b.read)
def toJsonItems : Room → List Draft → Decoded (List Json)
  | _, [] => .ok []
  | room, d :: rest => do
    let v ← toJson room d
    let vs ← toJsonItems room rest
    return v :: vs
/-- Decodes members, repeated keys included. -/
def toJsonMembers : Room → List (Except SyntaxError String × Draft) → Decoded (List (String × Json))
  | _, [] => .ok []
  | room, (key, d) :: rest => do
    let key ← sound key
    let v ← toJson room d
    let more ← toJsonMembers room rest
    return (key, v) :: more
end

/-- Feeds the members of an object to `step`, in order. -/
def foldMembers {σ : Type} (step : σ → String → Draft → Decoded σ) :
    σ → List (Except SyntaxError String × Draft) → Decoded σ
  | s, [] => .ok s
  | s, (key, d) :: rest => do
    let key ← sound key
    let s ← step s key d
    foldMembers step s rest

/-- Decodes the items of a list in order. -/
def decodeItems {α : Type} (item : Draft → Decoded α) : List Draft → Decoded (List α)
  | [] => .ok []
  | d :: rest => do
    let a ← item d
    let as ← decodeItems item rest
    return a :: as

end Draft

namespace Decoder

/-- Any document. -/
def json : Decoder Json := Draft.toJson

/-- An object, as its members. -/
def members : Decoder Members := fun room d =>
  match d with
  | .object ms breach => do
    let inner ← room.enter
    let pairs ← Draft.toJsonMembers inner ms
    Draft.stopAt breach
    return Members.ofPairs pairs
  | d => d.unwanted "a map"

def string : Decoder String := fun _ d =>
  match d with
  | .string s => Draft.sound s
  | d => d.unwanted "a string"

/-- A string that names a file. -/
def path : Decoder String := fun _ d =>
  match d with
  | .string s => Draft.sound s
  | d => d.unwanted "path string"

def bool : Decoder Bool := fun _ d =>
  match d with
  | .bool b => .ok b
  | d => d.unwanted "a boolean"

def list {α : Type} (item : Decoder α) : Decoder (List α) := fun room d =>
  match d with
  | .array items breach => do
    let inner ← room.enter
    let as ← Draft.decodeItems (item inner) items
    Draft.stopAt breach
    return as
  | d => d.unwanted "a sequence"

/-- A value, or `null` for none. -/
def optional {α : Type} (value : Decoder α) : Decoder (Option α) := fun room d =>
  match d with
  | .null => .ok none
  | d => (value room d).map some

/-- An object: `step` gets each member with the room inside, `finish` the state at its end. -/
def record {σ α : Type} (name : String) (start : σ) (step : Room → σ → String → Draft → Decoded σ)
    (finish : σ → Decoded α) : Decoder α := fun room d =>
  match d with
  | .object ms breach => do
    let inner ← room.enter
    let s ← Draft.foldMembers (step inner) start ms
    Draft.stopAt breach
    finish s
  | d => d.unwanted ("struct " ++ name)

/-- Stores the value of a declared member, which may stand once. -/
def once {α : Type} (name : String) (slot : Option α) (value : Decoded α) : Decoded (Option α) :=
  match slot with
  | some _ => .error (.duplicateField name)
  | none => value.map some

/-- The value of a declared member that must be there. -/
def required {α : Type} (name : String) : Option α → Decoded α
  | some a => .ok a
  | none => .error (.missingField name)

/-! ## Records written as lists

Some records may also be written as the list of their fields in order of declaration. -/

/-- The fields that are left of a record written as a list. -/
structure Fields where
  items : List Draft
  breach : Option Breach

/-- The next field: none when the list has ended. -/
def Fields.next? {α : Type} (fields : Fields) (value : Draft → Decoded α) :
    Decoded (Option α × Fields) :=
  match fields.items with
  | d :: rest => do return (some (← value d), { fields with items := rest })
  | [] => do
    Draft.stopAt fields.breach
    return (none, fields)

/-- The next field, which must be there: `index` fields came before it, `wanted` names the record
with its fields. -/
def Fields.next {α : Type} (fields : Fields) (index : Nat) (wanted : String)
    (value : Draft → Decoded α) : Decoded (α × Fields) := do
  match ← fields.next? value with
  | (some a, fields) => return (a, fields)
  | (none, _) => throw (.length index wanted)

/-- The end of a record of `count` fields written as a list. -/
def Fields.close (fields : Fields) (room : Room) (count : Nat) : Decoded Unit :=
  if !fields.items.isEmpty then
    match room with
    | none => .error (.length (count + fields.items.length) "fewer elements in array")
    | some _ => .error (.malformed .trailingCharacters)
  else match fields.breach with
    | none => .ok ()
    | some b =>
      if b.read == .expectedCommaOrBracket then .error (.malformed .trailingCharacters)
      else .error (.malformed b.read)

/-- A record that may be written as an object or as a list of `count` fields. -/
def recordOrList {σ α : Type} (name : String) (count : Nat) (start : σ)
    (step : Room → σ → String → Draft → Decoded σ) (finish : σ → Decoded α)
    (fromList : Room → Fields → Decoded (α × Fields)) : Decoder α := fun room d =>
  match d with
  | .array items breach => do
    let inner ← room.enter
    let (a, fields) ← fromList inner ⟨items, breach⟩
    fields.close room count
    return a
  | d => record name start step finish room d

/-- The words for a record of several fields. -/
def withElements (name : String) (count : Nat) : String :=
  "struct " ++ name ++ " with " ++ toString count
    ++ (if count == 1 then " element" else " elements")

end Decoder

/-- The number of arrays and objects that a text may open inside one another. -/
def textRoom : Room := some 127

/-- Decodes a text, which holds one value and blanks. -/
def Document.decode {α : Type} (value : Decoder α) (document : Document) : Decoded α := do
  let a ← value textRoom document.draft
  if document.trailing then throw (.malformed .trailingCharacters)
  return a

def decodeBytes {α : Type} (value : Decoder α) (b : Bytes) : Decoded α :=
  (Document.read b).decode value

def Json.decode {α : Type} (value : Decoder α) (v : Json) : Decoded α := value none v.toDraft

end JobGate
