import JobGate.Job

/-!
# What controllers are shown

A payload is a job with what is known about the caller who submitted it. Its document is what
policies evaluate and what webhooks receive. The identity of a caller keeps every member that the
backend reported beside the four that have a meaning here.
-/
namespace JobGate

/-- Who a token belongs to, as the backend reports it. -/
structure Identity where
  accessorId : String := ""
  name : String := ""
  kind : String := ""
  policies : List String := []
  other : Members := []
  deriving DecidableEq, Inhabited

/-- What is known about a caller. -/
structure Caller where
  clientIp : String := ""
  accessorId : String := ""
  identity : Option Identity := none
  deriving DecidableEq, Inhabited

/-- A job and, if known, its caller. -/
structure Payload where
  job : Job
  caller : Option Caller := none
  deriving DecidableEq, Inhabited

namespace Identity

/-- The members with a meaning, in the order in which they are written. -/
def declared : List String := ["AccessorID", "Name", "Type", "Policies"]

/-- The identity as a document: the declared members, then the others. -/
def toJson (identity : Identity) : Json :=
  .object <|
    [("AccessorID", .string identity.accessorId), ("Name", .string identity.name),
      ("Type", .string identity.kind), ("Policies", Json.ofStrings identity.policies)]
      ++ identity.other

structure Slots where
  accessorId : Option String := none
  name : Option String := none
  kind : Option String := none
  policies : Option (List String) := none
  other : List (String × Json) := []

def Slots.read (room : Room) (slots : Slots) (key : String) (d : Draft) : Decoded Slots :=
  if key = "AccessorID" then do
    return { slots with accessorId := ← Decoder.once key slots.accessorId (Decoder.string room d) }
  else if key = "Name" then do
    return { slots with name := ← Decoder.once key slots.name (Decoder.string room d) }
  else if key = "Type" then do
    return { slots with kind := ← Decoder.once key slots.kind (Decoder.string room d) }
  else if key = "Policies" then do
    return { slots with
      policies := ← Decoder.once key slots.policies (Decoder.list Decoder.string room d) }
  else do return { slots with other := slots.other ++ [(key, ← Decoder.json room d)] }

/-- The identity that the members make up; absent ones are empty. -/
def Slots.close (slots : Slots) : Decoded Identity :=
  return {
    accessorId := slots.accessorId.getD ""
    name := slots.name.getD ""
    kind := slots.kind.getD ""
    policies := slots.policies.getD []
    other := Members.ofPairs slots.other }

def decoder : Decoder Identity := Decoder.record "TokenInfo" {} Slots.read Slots.close

/-- The identity without the secret of its token. -/
def withoutSecret (identity : Identity) : Identity :=
  { identity with other := identity.other.erase "SecretID" }

end Identity

namespace Caller

/-- The caller as a document; an identity is written only if there is one. -/
def toJson (caller : Caller) : Json :=
  .object <|
    [("clientIP", .string caller.clientIp), ("accessorID", .string caller.accessorId)]
      ++ (match caller.identity with
        | some identity => [("tokenInfo", identity.toJson)]
        | none => [])

structure Slots where
  clientIp : Option String := none
  accessorId : Option String := none
  identity : Option (Option Identity) := none

def Slots.read (room : Room) (slots : Slots) (key : String) (d : Draft) : Decoded Slots :=
  if key = "clientIP" then do
    return { slots with clientIp := ← Decoder.once key slots.clientIp (Decoder.string room d) }
  else if key = "accessorID" then do
    return { slots with accessorId := ← Decoder.once key slots.accessorId (Decoder.string room d) }
  else if key = "tokenInfo" then do
    return { slots with
      identity := ← Decoder.once key slots.identity (Decoder.optional Identity.decoder room d) }
  else do
    d.skim
    return slots

/-- The caller that the members make up; absent ones are empty. -/
def Slots.close (slots : Slots) : Decoded Caller :=
  return {
    clientIp := slots.clientIp.getD ""
    accessorId := slots.accessorId.getD ""
    identity := slots.identity.getD none }

/-- Reads a caller written as a list of its three fields, of which the last ones may be absent. -/
def ofFields (room : Room) (fields : Decoder.Fields) : Decoded (Caller × Decoder.Fields) := do
  let (clientIp, fields) ← fields.next? (Decoder.string room)
  let (accessorId, fields) ← fields.next? (Decoder.string room)
  let (identity, fields) ← fields.next? (Decoder.optional Identity.decoder room)
  return (⟨clientIp.getD "", accessorId.getD "", identity.getD none⟩, fields)

def decoder : Decoder Caller :=
  Decoder.recordOrList "RequestContext" 3 {} Slots.read Slots.close ofFields

end Caller

namespace Payload

/-- The payload as a document; the caller is written only if known. -/
def toJson (payload : Payload) : Json :=
  .object <|
    [("job", payload.job.toJson)]
      ++ (match payload.caller with
        | some caller => [("context", caller.toJson)]
        | none => [])

structure Slots where
  job : Option Job := none
  caller : Option (Option Caller) := none

def Slots.read (room : Room) (slots : Slots) (key : String) (d : Draft) : Decoded Slots :=
  if key = "job" then do
    return { slots with job := ← Decoder.once key slots.job (Job.decoder room d) }
  else if key = "context" then do
    return { slots with
      caller := ← Decoder.once key slots.caller (Decoder.optional Caller.decoder room d) }
  else do
    d.skim
    return slots

/-- The payload that the members make up; the job must be there. -/
def Slots.close (slots : Slots) : Decoded Payload := do
  let job ← Decoder.required "job" slots.job
  return ⟨job, slots.caller.getD none⟩

/-- Reads a payload written as a list of its two fields, of which the second may be absent. -/
def ofFields (room : Room) (fields : Decoder.Fields) : Decoded (Payload × Decoder.Fields) := do
  let (job, fields) ← fields.next 0 (Decoder.withElements "Payload" 2) (Job.decoder room)
  let (caller, fields) ← fields.next? (Decoder.optional Caller.decoder room)
  return (⟨job, caller.getD none⟩, fields)

def decoder : Decoder Payload :=
  Decoder.recordOrList "Payload" 2 {} Slots.read Slots.close ofFields

/-- The address of the caller, unless it is empty. -/
def clientIp? (payload : Payload) : Option String :=
  (payload.caller.map (·.clientIp)).filter (· ≠ "")

/-- The accessor of the caller, unless it is empty. -/
def accessorId? (payload : Payload) : Option String :=
  (payload.caller.map (·.accessorId)).filter (· ≠ "")

end Payload
end JobGate
