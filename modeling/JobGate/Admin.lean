import JobGate.Counters
import JobGate.Http.Message

/-!
# The admin server

Operators ask whether the gate lives, whether it is ready, and for the counters. Only reading
methods are allowed, and nothing else is found.
-/
namespace JobGate.Admin

/-- The media type of the counters. -/
def countersType : String := "application/openmetrics-text; version=1.0.0; charset=utf-8"

def textReply (status : Nat) (mediaType text : String) : Reply where
  status
  headers := [("content-type", Bytes.ofAscii mediaType)]
  body := Utf8.encode text

def emptyReply (status : Nat) : Reply where
  status
  headers := []
  body := []

/-- The answer for a path that is read. -/
def page (ready : Bool) (counters : Counters) (path : String) : Reply :=
  if path = "/live" then textReply 200 "text/plain" "live\n"
  else if path = "/ready" then
    if ready then textReply 200 "text/plain" "ready\n"
    else textReply 500 "text/plain" "not ready\n"
  else if path = "/metrics" then textReply 200 countersType counters.text
  else emptyReply 404

/-- The answer to a request. -/
def handle (ready : Bool) (counters : Counters) (method path : String) : Reply :=
  if method = "GET" || method = "HEAD" then page ready counters path else emptyReply 405

end JobGate.Admin
