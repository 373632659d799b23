import JobGate.Gateway.Fault
import JobGate.Gateway.Identity
import JobGate.Report

/-!
# The gateway

A request that submits a job is admitted before it is forwarded: the caller is identified, the job
is taken out of the body, the pipeline runs, and the admitted job takes the place of the submitted
one. What admission has to report is folded into a successful reply. Every other request passes
through. Faults are answered by the gateway itself; one that is met before the request is sent
leaves the backend alone.
-/
namespace JobGate

/-- A request as it arrives; its body may break off for a reason. -/
structure Incoming where
  method : String
  uri : Uri
  headers : Headers
  body : Except String Bytes
  version : HttpVersion := .http11

/-- A result, with what was counted on the way. -/
structure Handled (α : Type) where
  result : Except Fault α
  events : List Event

/-- A gate in front of a backend. -/
structure Gateway (σ : Type) where
  backend : Uri
  timeLimit : Duration
  pipeline : Pipeline σ
  network : Network σ
  identity : Option (IdentitySource σ) := none
  /-- The other end of the connection, if it is known. -/
  peer : Option SocketAddress := none

namespace Gateway

variable {σ : Type}

/-! ## Requests -/

/-- Finds out who calls. A token is resolved if some controller wants it and there is somebody to
ask. -/
def caller (gate : Gateway σ) (headers : Headers) (s : σ) : Except Fault Caller × σ :=
  let clientIp := headers.clientAddress gate.peer
  match (if gate.pipeline.resolvesToken then gate.identity else none), headers.token? with
  | some source, some token =>
    match source.resolve token s with
    | (.error failure, s) => (.error (.identity failure), s)
    | (.ok identity, s) => (.ok ⟨clientIp, identity.accessorId, some identity⟩, s)
  | _, _ => (.ok ⟨clientIp, "", none⟩, s)

/-- Runs the pipeline as the route wants it: validators refuse a job that is to be registered or
planned, and are reported on one that is to be validated. -/
def decide (gate : Gateway σ) (route : Route) (payload : Payload) (s : σ) :
    Outcome (Job × Report) × σ :=
  match route with
  | .register | .plan =>
    let (out, s) := gate.pipeline.enforce payload s
    (⟨out.result.map fun admitted => (admitted.job, { route, warnings := admitted.warnings }),
      out.events⟩, s)
  | .validate =>
    let (out, s) := gate.pipeline.review payload s
    (⟨out.result.map fun review =>
        (review.job,
          Report.addCauses review.errors { route, warnings := review.warnings }),
      out.events⟩, s)

/-- The submission in a body. -/
def openBody (headers : Headers) (body : Bytes) : Except Fault Submission :=
  match decodeBody headers.declaresGzip body with
  | .error e => .error (.gzip e)
  | .ok plain => match decodeBytes Submission.decoder plain with
    | .error e => .error (.decode e)
    | .ok submission => .ok submission

/-- The body of a submission, compressed as the headers say. -/
def sealBody (headers : Headers) (submission : Submission) : Bytes :=
  encodeBody headers.declaresGzip submission.toJson.bytes

/-- Admits the job in a body: the body with the admitted job, and what is to be reported. -/
def admission (gate : Gateway σ) (route : Route) (headers : Headers) (body : Bytes)
    (caller : Caller) (s : σ) : Handled (Bytes × Report) × σ :=
  match openBody headers body with
  | .error fault => (⟨.error fault, []⟩, s)
  | .ok submission =>
    match gate.decide route ⟨submission.job, some caller⟩ s with
    | (⟨.error refusal, events⟩, s) => (⟨.error (.admission refusal), events⟩, s)
    | (⟨.ok (job, report), events⟩, s) =>
      (⟨.ok (sealBody headers { submission with job }, report), events⟩, s)

/-- The headers that are passed on to the backend. -/
def forwardedHeaders (peer : Option SocketAddress) (headers : Headers) : Headers :=
  let headers := headers.endToEnd.remove "host"
  match peer with
  | some peer => headers.addHop peer.host.text
  | none => headers

/-- The request that is passed on to the backend. -/
def outgoing (gate : Gateway σ) (request : Incoming) (headers : Headers)
    (body : Except String Bytes) : Except Fault Request :=
  match gate.backend.forwardTarget request.uri.target? with
  | .error e => .error (.target e)
  | .ok uri => .ok {
      method := request.method
      uri
      headers := forwardedHeaders gate.peer headers
      body := match body with | .ok b => b | .error _ => []
      bodyFault := match body with | .ok _ => none | .error reason => some reason }

def prepareSubmission (gate : Gateway σ) (route : Route) (request : Incoming) (caller : Caller)
    (s : σ) : Handled (Request × Option Report) × σ :=
  match request.body with
  | .error reason => (⟨.error (.body reason), []⟩, s)
  | .ok body =>
    match gate.admission route request.headers body caller s with
    | (⟨.error fault, events⟩, s) => (⟨.error fault, events⟩, s)
    | (⟨.ok (body, report), events⟩, s) =>
      let headers := request.headers.announceLength body.length
      (⟨(gate.outgoing request headers (.ok body)).map fun out => (out, some report), events⟩, s)

/-- The request to send to the backend, and what is to be reported about it. -/
def prepare (gate : Gateway σ) (request : Incoming) (s : σ) :
    Handled (Request × Option Report) × σ :=
  match gate.caller request.headers s with
  | (.error fault, s) => (⟨.error fault, []⟩, s)
  | (.ok caller, s) =>
    match Route.ofRequest? request.method request.uri.path with
    | some route => gate.prepareSubmission route request caller s
    | none =>
      (⟨(gate.outgoing request request.headers request.body).map fun out => (out, none), []⟩, s)

/-! ## Replies -/

/-- The reply with a report folded in. -/
def amendReply (report : Report) (reply : Reply) : Except Fault Reply :=
  if !reply.complete then .error .replyBody
  else
    let compressed := reply.headers.declaresGzip
    match decodeBody compressed reply.body with
    | .error e => .error (.gzip e)
    | .ok plain => match report.fold plain with
      | .error e => .error (.unfoldable e)
      | .ok plain =>
        let body := encodeBody compressed plain
        .ok { reply with headers := reply.headers.announceLength body.length, body }

/-- The reply that the caller gets: one to which there is nothing to add, or which reports no
success, is passed on as it is. -/
def finish (report : Option Report) (reply : Reply) : Except Fault Reply :=
  let reply := { reply with headers := reply.headers.endToEnd }
  match report with
  | none => .ok reply
  | some report =>
    if !report.isEmpty && isSuccess reply.status then amendReply report reply else .ok reply

/-- Sends a prepared request and waits for its reply. -/
def forward (gate : Gateway σ) (request : Request) (report : Option Report) (s : σ) :
    Except Fault Reply × σ :=
  match gate.network.send .forward request s with
  | (.failed e, s) => (.error (.transport e), s)
  | (.silent, s) => (.error (.timeout gate.timeLimit), s)
  | (.reply reply, s) => (finish report reply, s)

/-- Runs a request up to its answer or a fault. The backend's reply is passed on in the version of
the request. -/
def run (gate : Gateway σ) (request : Incoming) (s : σ) : Handled Reply × σ :=
  match gate.prepare request s with
  | (⟨.error fault, events⟩, s) => (⟨.error fault, events⟩, s)
  | (⟨.ok (out, report), events⟩, s) =>
    let (result, s) := gate.forward out report s
    (⟨result.map fun reply => { reply with version := request.version }, events⟩, s)

/-- The answer to a request that was run. -/
def answer (result : Except Fault Reply) : Reply :=
  match result with
  | .ok reply => reply
  | .error fault => fault.reply

def handle (gate : Gateway σ) (request : Incoming) (s : σ) : (Reply × List Event) × σ :=
  let (handled, s) := gate.run request s
  ((answer handled.result, handled.events), s)

/-- The gateway as shown to an operator. -/
def describe (gate : Gateway σ) : String :=
  "Proxy \x7b backend: " ++ gate.backend.text
    ++ ", timeout: " ++ gate.timeLimit.text
    ++ ", handler: " ++ gate.pipeline.describe
    ++ ", identity: " ++ (if gate.identity.isSome then "true" else "false")
    ++ ", peer: " ++ (match gate.peer with
      | some peer => "Some(" ++ peer.text ++ ")"
      | none => "None")
    ++ " \x7d"

end Gateway
end JobGate
