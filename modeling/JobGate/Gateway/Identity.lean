import JobGate.Failure
import JobGate.Gateway.Forwarding
import JobGate.Http.Message
import JobGate.Payload

/-!
# Who a token belongs to

The backend describes the token that a request carries. The secret that the description contains is
dropped before anybody else sees it.
-/
namespace JobGate

/-- The header that carries a caller's token. -/
def tokenHeader : String := "x-nomad-token"

/-- The token of a request, if it is a visible text and not empty. -/
def Headers.token? (headers : Headers) : Option String :=
  ((headers.firstText? tokenHeader).filter (!·.isEmpty)).map String.ofList

/-- Finds out who a token belongs to. -/
structure IdentitySource (σ : Type) where
  resolve : String → σ → Except Failure Identity × σ

/-- Why it is not known who a token belongs to. -/
inductive IdentityError where
  /-- The token is no header value. -/
  | badToken
  | request (e : TransportError)
  | status (code : Nat)
  /-- The body of the reply breaks off. -/
  | bodyCut
  | decode (e : DecodeError)
  deriving DecidableEq

namespace IdentityError

/-- The messages of an error, outermost first. -/
def chain : IdentityError → List String
  | .badToken => ["failed to parse header value"]
  | .request e => "failed to resolve token" :: e.chain
  | .status code => ["failed to resolve token: " ++ statusText code]
  | .bodyCut => bodyCutChain
  | .decode e => ["failed to decode token", e.message]

def asFailure (e : IdentityError) : Failure := Failure.ofChain e.chain

end IdentityError

/-- The path below the backend's where a token is described. -/
def tokenPath : String := "/v1/acl/token/self"

/-- Where a backend describes tokens; an error is its messages, outermost first. -/
def Uri.identityTarget (backend : Uri) : Except (List String) Uri :=
  match parseTarget (backend.pathPrefix ++ tokenPath) with
  | .error e => .error [e.message]
  | .ok target => match ofParts backend.scheme backend.authority target with
    | .ok uri => .ok uri
    | .error e => .error ["invalid backend address", e.message]

/-- The request that asks for the description of a token. -/
def identityRequest (uri : Uri) (token : Bytes) : Request :=
  { method := "GET", uri, headers := [(tokenHeader, token)], body := [] }

/-- Reads the description of a token and drops the secret. -/
def Reply.identity (reply : Reply) : Except IdentityError Identity :=
  if !isSuccess reply.status then .error (.status reply.status)
  else if !reply.complete then .error .bodyCut
  else match decodeBytes Identity.decoder reply.body with
    | .ok identity => .ok identity.withoutSecret
    | .error e => .error (.decode e)

/-- Asks the backend at a target about tokens. -/
def IdentitySource.ofBackend {σ : Type} (net : Network σ) (uri : Uri) : IdentitySource σ where
  resolve token s :=
    match headerValue? token with
    | none => (.error IdentityError.badToken.asFailure, s)
    | some value => match net.ask .identify (identityRequest uri value) s with
      | (.error e, s) => (.error (IdentityError.request e).asFailure, s)
      | (.ok reply, s) => (reply.identity.mapError IdentityError.asFailure, s)

end JobGate
