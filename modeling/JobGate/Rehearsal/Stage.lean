import JobGate.Http.Message
import JobGate.Json.Decoder
import JobGate.Json.Writer

/-!
# Rehearsals

A stage stands in for the world around a gate. Two scripted servers, the backend and the webhooks,
answer requests by their path: the n-th request to a path gets its n-th reply, and the last reply is
repeated. Whether a connection can be opened at all is part of the stage. Everything that is asked
is written down.
-/
namespace JobGate

/-- Where the body of a scripted reply comes from. -/
inductive ReplyBody where
  | fixed (b : Bytes)
  /-- The member `job` of the request's document. -/
  | echoJob
  | echoRequest

/-- What becomes of a scripted reply. -/
inductive ReplyFate where
  | arrives
  /-- The connection is closed without an answer. -/
  | dropped
  /-- The body breaks off. -/
  | cut
  /-- There never is an answer. -/
  | silent
  deriving DecidableEq

/-- A reply of a script. -/
structure ScriptedReply where
  status : Nat := 200
  headers : Headers := []
  body : ReplyBody := .fixed []
  fate : ReplyFate := .arrives

/-- The replies to the requests for each path; those under `*` serve the other paths. -/
abbrev Script := List (String × List ScriptedReply)

/-- A scripted server: what it answers, how often each key of its script was used, and the requests
that it received, the last one first. -/
structure ScriptedServer where
  authority : String
  script : Script := []
  used : List (String × Nat) := []
  received : List Request := []

/-- The world around a gate, and what was written down of it, the last entry first. -/
structure Stage where
  /-- Why no connection can be opened, if that is so. -/
  unreachable : Option ConnectFailure := none
  backend : ScriptedServer
  hooks : ScriptedServer
  /-- The controllers that ran, with the documents they were shown. -/
  ran : List (String × String) := []
  /-- The documents that policies were asked about. -/
  queries : List String := []
  /-- The images that a verifier was asked about. -/
  images : List String := []

namespace ScriptedServer

/-- The key of the script that serves a path. -/
def key? (server : ScriptedServer) (path : String) : Option String :=
  if (server.script.lookup path).isSome then some path
  else if (server.script.lookup "*").isSome then some "*"
  else none

/-- The reply with a number; beyond the end, the last one. -/
def replyAt (replies : List ScriptedReply) (n : Nat) : ScriptedReply :=
  (replies[n]?.orElse fun _ => replies.getLast?).getD { status := 404 }

/-- Takes the next reply for a path. -/
def nextReply (server : ScriptedServer) (path : String) : ScriptedReply × ScriptedServer :=
  match server.key? path with
  | none => ({ status := 404 }, server)
  | some key =>
    let n := (server.used.lookup key).getD 0
    let used := (key, n + 1) :: server.used.filter (·.1 != key)
    (replyAt ((server.script.lookup key).getD []) n, { server with used })

/-- The member `job` of a document; `null` if there is none. -/
def jobOf (body : Bytes) : Json :=
  match decodeBytes Decoder.json body with
  | .ok v => (v.field? "job").getD .null
  | .error _ => .null

/-- The body of a reply to a request. -/
def replyBody (request : Request) : ReplyBody → Bytes
  | .fixed b => b
  | .echoJob => (jobOf request.body).bytes
  | .echoRequest => request.body

/-- The headers that frame the body of a reply. -/
def frame (reply : ScriptedReply) (length : Nat) : Headers :=
  if reply.fate = .cut then ("transfer-encoding", Bytes.ofAscii "chunked") :: reply.headers
  else if reply.status = 204 then reply.headers
  else reply.headers.put "content-length" (Bytes.ofAscii (toString length))

/-- What a scripted reply to a request delivers. -/
def deliver (request : Request) (reply : ScriptedReply) : Delivery :=
  let body := if reply.status = 204 || reply.status = 304 then []
    else replyBody request reply.body
  match reply.fate with
  | .dropped => .failed .dropped
  | .silent => .silent
  | .arrives | .cut =>
    .reply {
      status := reply.status
      headers := frame reply body.length
      body
      complete := reply.fate = .arrives }

/-- Answers a request and writes it down. -/
def serve (server : ScriptedServer) (request : Request) : Delivery × ScriptedServer :=
  match request.bodyFault with
  | some reason => (.failed (.bodyFailed reason), server)
  | none =>
    let (reply, server) := server.nextReply request.uri.path
    (deliver request reply, { server with received := request :: server.received })

end ScriptedServer

namespace Stage

/-- Dials the server of a request: one of the two, or a place where nobody listens. -/
def dispatch (request : Request) (stage : Stage) : Delivery × Stage :=
  match stage.unreachable with
  | some failure => (.failed (.notConnected failure), stage)
  | none =>
    if request.uri.authority = stage.backend.authority then
      let (delivery, backend) := stage.backend.serve request
      (delivery, { stage with backend })
    else if request.uri.authority = stage.hooks.authority then
      let (delivery, hooks) := stage.hooks.serve request
      (delivery, { stage with hooks })
    else (.failed (.notConnected .refused), stage)

def network : Network Stage where
  dispatch _ request stage := stage.dispatch request

/-- The stage with nothing written down; the scripts go on where they are. -/
def fresh (stage : Stage) : Stage :=
  { stage with
    ran := []
    queries := []
    images := []
    backend := { stage.backend with received := [] }
    hooks := { stage.hooks with received := [] } }

end Stage
end JobGate
