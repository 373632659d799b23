import JobGate.Http.Message
import JobGate.Json.Writer
import JobGate.Proposal

/-!
# Webhooks

An endpoint is where a webhook or an image verifier is asked. A webhook is asked with the payload as
a document; headers tell it the caller's address and accessor where these are legal header values.
Its reply must succeed, arrive completely and decode: as a proposal, as the whole job, or as a
verdict.
-/
namespace JobGate

/-- The target and the method of the requests to a collaborator. -/
structure Endpoint where
  uri : Uri
  method : String
  deriving DecidableEq, Inhabited

/-- The request that shows the collaborator a document. -/
def Endpoint.request (endpoint : Endpoint) (headers : Headers) (document : Json) : Request where
  method := endpoint.method
  uri := endpoint.uri
  headers := ("content-type", Bytes.ofAscii "application/json") :: headers
  body := document.bytes

/-- Why a webhook gives no answer. -/
inductive WebhookError where
  | request (e : TransportError)
  /-- The body of the reply breaks off. -/
  | bodyCut
  | status (code : Nat) (body : String)
  | decode (e : DecodeError)
  | noJob
  deriving DecidableEq

namespace WebhookError

/-- What lies behind an error, outermost first. -/
def behind : WebhookError → List String
  | .request e => e.chain
  | .bodyCut => bodyCutChain
  | .decode e => [e.message]
  | .status _ _ | .noJob => []

def message (e : WebhookError) : String :=
  match e with
  | .request _ => "webhook request failed: " ++ e.behind.headD ""
  | .bodyCut => "failed to read webhook response: " ++ e.behind.headD ""
  | .status code body => "webhook responded with " ++ statusText code ++ ": " ++ body
  | .decode _ => "failed to decode webhook response: " ++ e.behind.headD ""
  | .noJob => "webhook returned no job"

/-- The failure of a controller that meets the error. -/
def asFailure (e : WebhookError) : Failure := .plain e.message e.behind

end WebhookError

/-- The headers that tell who calls: an address in two headers, an accessor in one. An empty text
or one that is no header value is left out. -/
def Payload.callerHeaders (payload : Payload) : Headers :=
  (match payload.clientIp?.bind headerValue? with
    | some value => [("x-forwarded-for", value), ("x-admission-client-ip", value)]
    | none => [])
  ++ (match payload.accessorId?.bind headerValue? with
    | some value => [("x-admission-accessor-id", value)]
    | none => [])

/-- The request that asks an endpoint about a payload. -/
def Endpoint.consultation (endpoint : Endpoint) (payload : Payload) : Request :=
  endpoint.request payload.callerHeaders payload.toJson

/-- Reads the reply of a webhook. -/
def Reply.answer {α : Type} (answer : Decoder α) (reply : Reply) : Except WebhookError α :=
  if !reply.complete then .error .bodyCut
  else if !isSuccess reply.status then
    .error (.status reply.status (Utf8.decodeLossy reply.body))
  else match decodeBytes answer reply.body with
    | .ok a => .ok a
    | .error e => .error (.decode e)

/-- Asks a webhook about a payload. -/
def Network.consult {σ α : Type} (net : Network σ) (endpoint : Endpoint) (answer : Decoder α)
    (payload : Payload) (s : σ) : Except WebhookError α × σ :=
  match net.ask .consult (endpoint.consultation payload) s with
  | (.error e, s) => (.error (.request e), s)
  | (.ok reply, s) => (reply.answer answer, s)

/-- The lists of an answer that have been read. -/
structure AnswerSlots where
  patch : Option (List Json) := none
  warnings : Option (List String) := none
  errors : Option (List String) := none

def Decoder.strings : Decoder (List String) := Decoder.list Decoder.string

/-- Reads a member of an answer that consists of the lists named. -/
def AnswerSlots.read (names : List String) (room : Room) (slots : AnswerSlots) (key : String)
    (d : Draft) : Decoded AnswerSlots :=
  if !names.contains key then do
    d.skim
    return slots
  else if key = "patch" then do
    return { slots with
      patch := ← Decoder.once key slots.patch (Decoder.list Decoder.json room d) }
  else if key = "warnings" then do
    return { slots with warnings := ← Decoder.once key slots.warnings (Decoder.strings room d) }
  else do
    return { slots with errors := ← Decoder.once key slots.errors (Decoder.strings room d) }

/-- The proposal that the lists make; absent ones are empty. -/
def AnswerSlots.proposal (slots : AnswerSlots) : Proposal :=
  ⟨slots.patch.getD [], slots.warnings.getD [], slots.errors.getD []⟩

/-- Reads a proposal written as a list of its three lists, of which the last ones may be absent. -/
def Proposal.ofFields (room : Room) (fields : Decoder.Fields) :
    Decoded (Proposal × Decoder.Fields) := do
  let (patch, fields) ← fields.next? (Decoder.list Decoder.json room)
  let (warnings, fields) ← fields.next? (Decoder.strings room)
  let (errors, fields) ← fields.next? (Decoder.strings room)
  return (⟨patch.getD [], warnings.getD [], errors.getD []⟩, fields)

/-- Decodes the answer of a patching webhook. -/
def Proposal.decoder : Decoder Proposal :=
  Decoder.recordOrList "PatchResponse" 3 {}
    (AnswerSlots.read ["patch", "warnings", "errors"]) (fun slots => .ok slots.proposal) ofFields

/-- Reads a verdict written as a list of its errors and warnings, of which the last ones may be
absent. -/
def Verdict.ofFields (room : Room) (fields : Decoder.Fields) :
    Decoded (Verdict × Decoder.Fields) := do
  let (errors, fields) ← fields.next? (Decoder.strings room)
  let (warnings, fields) ← fields.next? (Decoder.strings room)
  return (⟨warnings.getD [], ⟨errors.getD []⟩⟩, fields)

/-- Decodes the answer of a judging webhook. -/
def Verdict.decoder : Decoder Verdict :=
  Decoder.recordOrList "ValidationResponse" 2 {}
    (AnswerSlots.read ["errors", "warnings"]) (fun slots => .ok slots.proposal.verdict) ofFields

/-! ## Controllers -/

variable {σ : Type}

/-- Changes jobs by the operations that a webhook answers with. -/
def patchWebhook (net : Network σ) (name : String) (resolvesToken : Bool) (endpoint : Endpoint) :
    Mutator σ where
  name
  resolvesToken
  mutate payload s :=
    match net.consult endpoint Proposal.decoder payload s with
    | (.error e, s) => (.error e.asFailure, s)
    | (.ok proposal, s) => (proposal.mutation payload.job, s)

/-- What a whole job in an answer makes of the job asked about. -/
def Job.replacement (job : Job) : Option Job → Except WebhookError Mutation
  | some answer => .ok ⟨answer, !answer.same job, []⟩
  | none => .error .noJob

/-- Replaces jobs by the one that a webhook answers with. -/
def documentWebhook (net : Network σ) (name : String) (resolvesToken : Bool)
    (endpoint : Endpoint) : Mutator σ where
  name
  resolvesToken
  mutate payload s :=
    match net.consult endpoint (Decoder.optional Job.decoder) payload s with
    | (.error e, s) => (.error e.asFailure, s)
    | (.ok answer, s) =>
      match payload.job.replacement answer with
      | .ok mutation => (.ok mutation, s)
      | .error e => (.error e.asFailure, s)

/-- Judges jobs as a webhook answers. -/
def verdictWebhook (net : Network σ) (name : String) (resolvesToken : Bool) (endpoint : Endpoint) :
    Validator σ where
  name
  resolvesToken
  validate payload s :=
    match net.consult endpoint Verdict.decoder payload s with
    | (.error e, s) => (.error e.asFailure, s)
    | (.ok verdict, s) => (.ok verdict, s)

end JobGate
