import JobGate.Gzip.Member
import JobGate.Http.Message
import JobGate.Pipeline
import JobGate.Settings.Duration

/-!
# Faults

Why the gateway answers a request itself. The status of the answer depends on the fault alone.
-/
namespace JobGate

/-- Why a request gets no answer of the backend. -/
inductive Fault where
  /-- The body of the request broke off. -/
  | body (reason : String)
  /-- A body is no gzip member. -/
  | gzip (e : GzipError)
  /-- The body of the request is no submission. -/
  | decode (e : DecodeError)
  | identity (failure : Failure)
  | admission (refusal : Refusal)
  /-- The target at the backend is no URI. -/
  | target (e : UriError)
  | transport (e : TransportError)
  /-- The body of the reply broke off. -/
  | replyBody
  /-- The reply cannot take the report. -/
  | unfoldable (e : DecodeError)
  | timeout (limit : Duration)
  deriving DecidableEq

namespace Fault

def message : Fault → String
  | .body reason => "failed to read request body: " ++ reason
  | .gzip e => "invalid gzip body: " ++ e.message
  | .decode e => "failed decoding job, skipping admission controllers: " ++ e.message
  | .identity failure => "failed to resolve caller identity: " ++ failure.fullText
  | .admission refusal => "admission controllers rejected the job: " ++ refusal.message
  | .target e => "invalid backend request: " ++ e.message
  | .transport e => "backend request failed: " ++ e.message
  | .replyBody => "failed to read backend response: " ++ bodyCutChain.headD ""
  | .unfoldable e => "failed to rewrite backend response: " ++ e.message
  | .timeout limit => "backend did not respond within " ++ limit.text

/-- The status of the answer to a request that meets the fault. -/
def status : Fault → Nat
  | .transport _ | .replyBody | .unfoldable _ => 502
  | .timeout _ => 504
  | .body _ | .gzip _ | .decode _ | .identity _ | .admission _ | .target _ => 500

/-- The answer to a request that meets the fault. -/
def reply (fault : Fault) : Reply where
  status := fault.status
  headers := [("content-type", Bytes.ofAscii "text/plain")]
  body := Utf8.encode fault.message

end Fault
end JobGate
