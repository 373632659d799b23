import JobGate.Http.Uri

/-!
# Messages and the network

A network takes a request and delivers a reply, a failure, or nothing at all. It is a function of
the request, of what the request is for, and of a state, so that scripts and records of calls are
networks as well as the world is. The body of a reply arrives to its end or breaks off; one that
neither ends nor breaks off is no reply here.
-/
namespace JobGate

/-- The registered reason phrases. -/
def statusReasons : List (Nat × String) := [
  (100, "Continue"), (101, "Switching Protocols"), (102, "Processing"), (103, "Early Hints"),
  (200, "OK"), (201, "Created"), (202, "Accepted"), (203, "Non Authoritative Information"),
  (204, "No Content"), (205, "Reset Content"), (206, "Partial Content"), (207, "Multi-Status"),
  (208, "Already Reported"), (226, "IM Used"),
  (300, "Multiple Choices"), (301, "Moved Permanently"), (302, "Found"), (303, "See Other"),
  (304, "Not Modified"), (305, "Use Proxy"), (307, "Temporary Redirect"),
  (308, "Permanent Redirect"),
  (400, "Bad Request"), (401, "Unauthorized"), (402, "Payment Required"), (403, "Forbidden"),
  (404, "Not Found"), (405, "Method Not Allowed"), (406, "Not Acceptable"),
  (407, "Proxy Authentication Required"), (408, "Request Timeout"), (409, "Conflict"),
  (410, "Gone"), (411, "Length Required"), (412, "Precondition Failed"),
  (413, "Payload Too Large"), (414, "URI Too Long"), (415, "Unsupported Media Type"),
  (416, "Range Not Satisfiable"), (417, "Expectation Failed"), (418, "I'm a teapot"),
  (421, "Misdirected Request"), (422, "Unprocessable Entity"), (423, "Locked"),
  (424, "Failed Dependency"), (425, "Too Early"), (426, "Upgrade Required"),
  (428, "Precondition Required"), (429, "Too Many Requests"),
  (431, "Request Header Fields Too Large"), (451, "Unavailable For Legal Reasons"),
  (500, "Internal Server Error"), (501, "Not Implemented"), (502, "Bad Gateway"),
  (503, "Service Unavailable"), (504, "Gateway Timeout"), (505, "HTTP Version Not Supported"),
  (506, "Variant Also Negotiates"), (507, "Insufficient Storage"), (508, "Loop Detected"),
  (510, "Not Extended"), (511, "Network Authentication Required")]

/-- A status as shown in messages. -/
def statusText (code : Nat) : String :=
  toString code ++ " " ++ (statusReasons.lookup code).getD "<unknown status code>"

/-- The status says that the request succeeded. -/
def isSuccess (code : Nat) : Bool := 200 ≤ code && code < 300

/-- The versions of the protocol that a message may have. -/
inductive HttpVersion where
  | http10
  | http11
  | http2
  deriving DecidableEq, Inhabited

def HttpVersion.name : HttpVersion → String
  | .http10 => "HTTP/1.0"
  | .http11 => "HTTP/1.1"
  | .http2 => "HTTP/2.0"

/-- A request that is sent out. -/
structure Request where
  method : String
  uri : Uri
  headers : Headers
  body : Bytes
  /-- Why the body breaks off, if it does. -/
  bodyFault : Option String := none
  deriving DecidableEq, Inhabited

/-- A reply that came in. -/
structure Reply where
  status : Nat
  headers : Headers
  body : Bytes
  /-- Whether the body arrived to its end. -/
  complete : Bool := true
  version : HttpVersion := .http11
  deriving DecidableEq, Inhabited

/-- Why no connection is made. -/
inductive ConnectFailure where
  | unreachable
  | refused
  deriving DecidableEq

def ConnectFailure.message : ConnectFailure → String
  | .unreachable => "Network is unreachable (os error 101)"
  | .refused => "Connection refused (os error 111)"

/-- Why a request is not answered. -/
inductive TransportError where
  /-- The target names no scheme or no authority. -/
  | notAbsolute
  /-- The scheme of the target is not `http`. -/
  | notHttp
  | notConnected (failure : ConnectFailure)
  /-- The connection was closed before an answer. -/
  | dropped
  /-- The body of the request broke off. -/
  | bodyFailed (reason : String)
  /-- No answer came, and none was waited for any longer. -/
  | silent
  deriving DecidableEq

/-- The messages of a failure and of what lies behind it, outermost first. -/
def TransportError.chain : TransportError → List String
  | .notAbsolute => ["client error (UserAbsoluteUriRequired)"]
  | .notHttp => ["client error (Connect)", "invalid URL, scheme is not http"]
  | .notConnected failure => ["client error (Connect)", "tcp connect error", failure.message]
  | .dropped => ["client error (SendRequest)", "connection closed before message completed"]
  | .bodyFailed reason => ["client error (SendRequest)", "error from user's Body stream", reason]
  | .silent => ["client error (SendRequest)", "operation timed out"]

/-- The outermost message of a failure. -/
def TransportError.message (e : TransportError) : String := e.chain.headD ""

/-- The messages for a body that broke off, outermost first. -/
def bodyCutChain : List String :=
  ["error reading a body from connection", "unexpected EOF during chunk size line"]

/-- What becomes of a request. -/
inductive Delivery where
  | reply (r : Reply)
  | failed (e : TransportError)
  /-- Nothing comes back. -/
  | silent
  deriving DecidableEq

/-- What a request is for. -/
inductive Errand where
  /-- To learn who a token belongs to. -/
  | identify
  /-- To ask a webhook or a verifier. -/
  | consult
  /-- To hand a caller's request to the backend. -/
  | forward
  deriving DecidableEq

/-- Sends requests, with a state. -/
structure Network (σ : Type) where
  dispatch : Errand → Request → σ → Delivery × σ

namespace Network

variable {σ : Type}

/-- Sends a request to an absolute target with scheme `http`; any other fails at once. -/
def send (net : Network σ) (errand : Errand) (request : Request) (s : σ) : Delivery × σ :=
  if !request.uri.isAbsolute then (.failed .notAbsolute, s)
  else if request.uri.scheme != some "http" then (.failed .notHttp, s)
  else net.dispatch errand request s

/-- Sends a request whose answer is waited for without a limit: silence is a failure. -/
def ask (net : Network σ) (errand : Errand) (request : Request) (s : σ) :
    Except TransportError Reply × σ :=
  match net.send errand request s with
  | (.reply r, s) => (.ok r, s)
  | (.failed e, s) => (.error e, s)
  | (.silent, s) => (.error .silent, s)

end Network
end JobGate
