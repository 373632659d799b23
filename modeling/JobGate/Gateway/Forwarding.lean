import JobGate.Address
import JobGate.Http.Header
import JobGate.Http.Uri

/-!
# Forwarding

What changes on a message that is passed on: headers that concern one connection only are dropped,
the caller's address is appended to the chain of addresses, and the target moves below the
backend's path.
-/
namespace JobGate

/-- The headers that concern one connection only, whatever the message says. -/
def connectionHeaders : List String :=
  ["connection", "keep-alive", "proxy-authenticate", "proxy-authorization", "te", "trailer",
    "transfer-encoding", "upgrade"]

/-- The header that lists the addresses a request came through. -/
def forwardingHeader : String := "x-forwarded-for"

namespace Headers

/-- The headers that the message itself names as concerning one connection only. -/
def connectionNames (headers : Headers) : List String :=
  (headers.entries "connection").filterMap fun entry =>
    headerName? (entry.map fun c => c.toNat.toUInt8)

/-- The headers that may be passed on. -/
def endToEnd (headers : Headers) : Headers :=
  headers.removeAll (headers.connectionNames ++ connectionHeaders)

/-- The headers with an address at the end of the chain. The chain is the first line of it; one that
is no visible text counts as none. -/
def addHop (address : String) (headers : Headers) : Headers :=
  let chain := match headers.firstText? forwardingHeader with
    | some earlier => String.ofList earlier ++ ", " ++ address
    | none => address
  headers.put forwardingHeader (Bytes.ofAscii chain)

/-- The address that the chain begins with, unless that is empty. -/
def forwardedClient? (headers : Headers) : Option String :=
  (((headers.firstText? forwardingHeader).bind fun chain => (commaEntries chain).head?).filter
    (!·.isEmpty)).map String.ofList

/-- The address of the client: where the chain begins, or else the other end of the connection. -/
def clientAddress (peer : Option SocketAddress) (headers : Headers) : String :=
  match headers.forwardedClient?, peer with
  | some address, _ => address
  | none, some peer => peer.host.text
  | none, none => ""

end Headers

namespace Uri

/-- The path of the backend without the slashes at its end. -/
def pathPrefix (backend : Uri) : String :=
  String.ofList (backend.path.toList.reverse.dropWhile (· == '/')).reverse

/-- Where a request for a path and query is passed on to. -/
def forwardTarget (backend : Uri) (target : Option PathQuery) : Except UriError Uri := do
  let wanted := (target.map PathQuery.text).getD "/"
  ofParts backend.scheme backend.authority (← parseTarget (backend.pathPrefix ++ wanted))

end Uri
end JobGate
