import JobGate.Job.Pointer

/-!
# Patches of jobs

A patch is a list of operations that apply one after another. `Job.patch` decodes the whole list
first, applies it, and asks last whether the result is still a job: either the patched job comes
out or an error, never a job patched in part.
-/
namespace JobGate

/-- One edit of a document. -/
inductive Operation where
  | add (path : Pointer) (value : Json)
  | remove (path : Pointer)
  | replace (path : Pointer) (value : Json)
  | move (source path : Pointer)
  | copy (source path : Pointer)
  | test (path : Pointer) (value : Json)
  deriving DecidableEq

/-- Why an operation does not apply. -/
inductive PatchFault where
  | pathInvalid
  | sourceInvalid
  | valueDiffers
  | movedIntoItself
  deriving DecidableEq

def PatchFault.message : PatchFault → String
  | .pathInvalid => "path is invalid"
  | .sourceInvalid => "\"from\" path is invalid"
  | .valueDiffers => "value did not match"
  | .movedIntoItself => "cannot move the value inside itself"

namespace Operation

inductive Kind where
  | add | remove | replace | move | copy | test
  deriving DecidableEq

/-- The names of the kinds, in order of declaration. -/
def Kind.names : List (String × Kind) :=
  [("add", .add), ("remove", .remove), ("replace", .replace), ("move", .move), ("copy", .copy),
    ("test", .test)]

def Kind.ofJson : Json → Decoded Kind
  | .string s => match Kind.names.lookup s with
    | some kind => .ok kind
    | none => .error (.unknownVariant s (Kind.names.map (·.1)))
  | v => .error (.mismatch v.found "variant identifier")

/-- Operations of this kind take a value. -/
def Kind.hasValue : Kind → Bool
  | .add | .replace | .test => true
  | .remove | .move | .copy => false

/-- Operations of this kind take their value from another place. -/
def Kind.hasSource : Kind → Bool
  | .move | .copy => true
  | .add | .remove | .replace | .test => false

/-- The name of the record that holds the fields of a kind. -/
def Kind.record : Kind → String
  | .add => "AddOperation"
  | .remove => "RemoveOperation"
  | .replace => "ReplaceOperation"
  | .move => "MoveOperation"
  | .copy => "CopyOperation"
  | .test => "TestOperation"

structure Slots where
  path : Option Pointer := none
  source : Option Pointer := none
  value : Option Json := none

def pointerOfJson : Json → Decoded Pointer
  | .string s => Pointer.parse s
  | v => .error (.mismatch v.found "a string")

/-- Reads a member; members that the kind does not have are passed over. -/
def Slots.read (kind : Kind) (slots : Slots) (member : String × Json) : Decoded Slots :=
  if member.1 = "path" then do return { slots with path := some (← pointerOfJson member.2) }
  else if member.1 = "from" && kind.hasSource then do
    return { slots with source := some (← pointerOfJson member.2) }
  else if member.1 = "value" && kind.hasValue then return { slots with value := some member.2 }
  else return slots

/-- The operation that the fields make up. -/
def Slots.close (kind : Kind) (slots : Slots) : Decoded Operation :=
  let path := Decoder.required "path" slots.path
  let source := Decoder.required "from" slots.source
  let value := Decoder.required "value" slots.value
  match kind with
  | .add => do return .add (← path) (← value)
  | .remove => do return .remove (← path)
  | .replace => do return .replace (← path) (← value)
  | .move => do return .move (← source) (← path)
  | .copy => do return .copy (← source) (← path)
  | .test => do return .test (← path) (← value)

/-- The fields of a kind in order of declaration. -/
def Kind.fields (kind : Kind) : List String :=
  (if kind.hasSource then ["from"] else []) ++ ["path"] ++ (if kind.hasValue then ["value"] else [])

/-- Reads the fields of an operation written as a list, after its kind. -/
def ofItems (kind : Kind) (items : List Json) : Decoded Operation := do
  let fields := kind.fields
  let slots ← (fields.zip items).foldlM (Slots.read kind) {}
  if items.length < fields.length then
    throw (.length items.length (Decoder.withElements kind.record fields.length))
  if fields.length < items.length then
    throw (.length items.length
      (if fields.length == 1 then "1 element in sequence"
        else toString fields.length ++ " elements in sequence"))
  slots.close kind

/-- Reads an operation: an object with its kind under `op`, or a list that starts with it. -/
def ofJson : Json → Decoded Operation
  | .object members => do
    let kind ← Kind.ofJson (← Decoder.required "op" (Members.get? "op" members))
    let slots ← (members.filter (·.1 != "op")).foldlM (Slots.read kind) {}
    slots.close kind
  | .array [] => .error (.missingField "op")
  | .array (tag :: items) => do
    let kind ← Kind.ofJson tag
    ofItems kind items
  | v => .error (.mismatch v.found "internally tagged enum PatchOperation")

/-- The place that an operation is about. -/
def path : Operation → Pointer
  | .add path _ | .remove path | .replace path _ | .move _ path | .copy _ path
  | .test path _ => path

/-- The result of one step. -/
abbrev Applied := Except PatchFault

/-- Changes the value that a pointer leads to. -/
def editAt (edit : Json → Applied Json) : Pointer → Json → Applied Json
  | [], v => edit v
  | token :: rest, .object members =>
    match Members.get? token members with
    | none => .error .pathInvalid
    | some v => do return .object (Members.set token (← editAt edit rest v) members)
  | token :: rest, .array items =>
    match Pointer.indexBelow? token items.length with
    | none => .error .pathInvalid
    | some i => match items[i]? with
      | none => .error .pathInvalid
      | some v => do return .array (items.set i (← editAt edit rest v))
  | _ :: _, _ => .error .pathInvalid

/-- Puts a value into an object or list under a token; `-` is the place after the last item. -/
def insertInto (token : String) (value : Json) : Json → Applied Json
  | .object members => .ok (.object (Members.set token value members))
  | .array items =>
    if token = "-" then .ok (.array (items ++ [value]))
    else match Pointer.indexBelow? token (items.length + 1) with
      | none => .error .pathInvalid
      | some i => .ok (.array (items.take i ++ value :: items.drop i))
  | _ => .error .pathInvalid

/-- Takes the value under a token out of an object or list. -/
def takeFrom (token : String) : Json → Applied Json
  | .object members =>
    if Members.has token members then .ok (.object (Members.erase token members))
    else .error .pathInvalid
  | .array items =>
    match Pointer.indexBelow? token items.length with
    | none => .error .pathInvalid
    | some i => .ok (.array (items.eraseIdx i))
  | _ => .error .pathInvalid

/-- Puts a value at a place: the root is replaced, an item moves those after it. -/
def insertAt (path : Pointer) (value : Json) (doc : Json) : Applied Json :=
  match path.getLast? with
  | none => .ok value
  | some token => editAt (insertInto token value) path.dropLast doc

/-- Takes the value at a place out; the root cannot be taken. -/
def takeAt (path : Pointer) (doc : Json) : Applied Json :=
  match path.getLast? with
  | none => .error .pathInvalid
  | some token => editAt (takeFrom token) path.dropLast doc

def apply (op : Operation) (doc : Json) : Applied Json :=
  match op with
  | .add path value => insertAt path value doc
  | .remove path => takeAt path doc
  | .replace path value => editAt (fun _ => .ok value) path doc
  | .move source path =>
    if source.isInside path then .error .movedIntoItself
    else match takeAt source doc, source.resolve? doc with
      | .ok rest, some value => insertAt path value rest
      | _, _ => .error .sourceInvalid
  | .copy source path =>
    match source.resolve? doc with
    | some value => insertAt path value doc
    | none => .error .sourceInvalid
  | .test path value =>
    match path.resolve? doc with
    | some target => if target.same value then .ok doc else .error .valueDiffers
    | none => .error .pathInvalid

end Operation

/-- Why a patch fails. -/
inductive PatchError where
  /-- An operation is malformed. -/
  | decode (e : DecodeError)
  /-- The operation at an index does not apply. -/
  | apply (index : Nat) (path : Pointer) (fault : PatchFault)
  /-- The patched document is no job. -/
  | shape (e : DecodeError)
  deriving DecidableEq

/-- What lies behind a failed patch, in words. -/
def PatchError.cause : PatchError → String
  | .decode e | .shape e => e.message
  | .apply index path fault =>
    "operation '/" ++ toString index ++ "' failed at path '" ++ path.text ++ "': " ++ fault.message

/-- The words for a failed patch. -/
def PatchError.message (e : PatchError) : String :=
  match e with
  | .decode _ => "failed to decode patch: " ++ e.cause
  | .apply _ _ _ => "failed to apply patch: " ++ e.cause
  | .shape _ => "patched document is not a job: " ++ e.cause

/-- Applies operations one after another; `index` operations came before them. -/
def applyOperations (index : Nat) : List Operation → Json → Except PatchError Json
  | [], doc => .ok doc
  | op :: rest, doc =>
    match op.apply doc with
    | .ok doc => applyOperations (index + 1) rest doc
    | .error fault => .error (.apply index op.path fault)

def decodeOperations (ops : List Json) : Except PatchError (List Operation) :=
  match ops.mapM Operation.ofJson with
  | .ok ops => .ok ops
  | .error e => .error (.decode e)

namespace Job

/-- Patches a job. The flag says whether there were operations at all, whatever they did. -/
def patch (ops : List Json) (job : Job) : Except PatchError (Job × Bool) :=
  if ops.isEmpty then .ok (job, false)
  else do
    let operations ← decodeOperations ops
    let doc ← applyOperations 0 operations job.toJson
    match Job.ofJson doc with
    | .ok job => return (job, true)
    | .error e => throw (.shape e)

end Job
end JobGate
