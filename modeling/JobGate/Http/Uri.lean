import JobGate.Http.Header

/-!
# URIs

What a request is sent to: a path with an optional query, `*`, an authority alone, or a scheme
with an authority and a path. A fragment is dropped. The schemes `http` and `https` are kept in
small letters, any other as it is written.
-/
namespace JobGate

/-- Why a text is no URI, or parts do not make one. -/
inductive UriError where
  | empty
  | tooLong
  | schemeTooLong
  | invalidCharacter
  | invalidFormat
  | invalidAuthority
  | schemeMissing
  | authorityMissing
  deriving DecidableEq

def UriError.message : UriError → String
  | .empty => "empty string"
  | .tooLong => "uri too long"
  | .schemeTooLong => "scheme too long"
  | .invalidCharacter => "invalid uri character"
  | .invalidFormat => "invalid format"
  | .invalidAuthority => "invalid authority"
  | .schemeMissing => "scheme missing"
  | .authorityMissing => "authority missing"

/-- A path and its query, as written. -/
structure PathQuery where
  path : String
  query : Option String
  deriving DecidableEq, Inhabited

/-- The parts of a URI. An absent authority is empty. -/
structure Uri where
  scheme : Option String
  authority : String
  target : PathQuery
  deriving DecidableEq, Inhabited

namespace PathQuery

/-- The empty path without query. -/
def none : PathQuery := ⟨"", Option.none⟩

/-- Nothing is written at all. -/
def isEmpty (t : PathQuery) : Bool := t.path == "" && t.query.isNone

/-- The path; an empty one is the root. -/
def pathOrRoot (t : PathQuery) : String := if t.path == "" then "/" else t.path

/-- The path and query as a request names them. -/
def text (t : PathQuery) : String :=
  if t.isEmpty then "/"
  else t.path ++ (match t.query with | some q => "?" ++ q | Option.none => "")

/-- A character that may stand in a path as it is. -/
def isPathChar (c : Char) : Bool :=
  let n := c.toNat
  n == 0x21 || n == 0x22 || (0x24 ≤ n && n ≤ 0x3B) || n == 0x3D || (0x40 ≤ n && n ≤ 0x5F)
    || (0x61 ≤ n && n ≤ 0x7E) || 0x7F ≤ n

/-- A character that may stand in a query as it is. -/
def isQueryChar (c : Char) : Bool :=
  let n := c.toNat
  n == 0x21 || (0x24 ≤ n && n ≤ 0x3B) || n == 0x3D || 0x3F ≤ n

/-- Reads a path and query up to a fragment. -/
def parse (cs : List Char) : Except UriError PathQuery :=
  let path := cs.takeWhile fun c => c != '?' && c != '#'
  let rest := cs.dropWhile fun c => c != '?' && c != '#'
  if !path.all isPathChar then .error .invalidCharacter
  else match rest with
    | '?' :: rest =>
      let query := rest.takeWhile (· != '#')
      if !query.all isQueryChar then .error .invalidCharacter
      else .ok ⟨String.ofList path, some (String.ofList query)⟩
    | _ => .ok ⟨String.ofList path, Option.none⟩

end PathQuery

namespace Uri

def isAuthorityChar (c : Char) : Bool :=
  c.isAlphanum || "!$&'()*+,-.:;=@[]_~".toList.contains c

/-- What has been seen of an authority. -/
structure AuthorityScan where
  colons : Nat := 0
  opened : Bool := false
  closed : Bool := false
  percent : Bool := false
  /-- Whether the last character is an at sign. -/
  endsAt : Bool := false

/-- Looks at the next character of an authority. Colons and percent signs before an at sign or
inside brackets do not count. -/
def AuthorityScan.next (scan : AuthorityScan) (c : Char) : Except UriError AuthorityScan :=
  let scan := { scan with endsAt := false }
  if c == ':' then
    if 8 ≤ scan.colons then .error .invalidAuthority
    else .ok { scan with colons := scan.colons + 1 }
  else if c == '[' then
    if scan.percent || scan.opened then .error .invalidAuthority
    else .ok { scan with opened := true }
  else if c == ']' then
    if !scan.opened || scan.closed then .error .invalidAuthority
    else .ok { scan with closed := true, colons := 0, percent := false }
  else if c == '@' then .ok { scan with endsAt := true, colons := 0, percent := false }
  else if c == '%' then .ok { scan with percent := true }
  else if isAuthorityChar c then .ok scan
  else .error .invalidCharacter

/-- A character that ends an authority. -/
def endsAuthority (c : Char) : Bool := c == '/' || c == '?' || c == '#'

/-- Splits the authority off the front of a text. -/
def splitAuthority (cs : List Char) : Except UriError (List Char × List Char) := do
  if cs.isEmpty then throw .empty
  let authority := cs.takeWhile fun c => !endsAuthority c
  let scan ← authority.foldlM AuthorityScan.next {}
  if scan.opened != scan.closed || 1 < scan.colons || scan.endsAt || scan.percent then
    throw .invalidAuthority
  return (authority, cs.dropWhile fun c => !endsAuthority c)

def isSchemeChar (c : Char) : Bool :=
  c.isAlphanum || c == '+' || c == '-' || c == '.' || c == '~'

/-- Whether the text starts with these letters, in either case. -/
def startsWithWord (word : String) (cs : List Char) : Bool :=
  (cs.take word.length).map Char.toLower == word.toList

/-- Splits a scheme and the marks after it off the front of a text. -/
def splitScheme (cs : List Char) : Except UriError (Option String × List Char) :=
  if startsWithWord "http://" cs then .ok (some "http", cs.drop 7)
  else if startsWithWord "https://" cs then .ok (some "https", cs.drop 8)
  else
    let scheme := cs.takeWhile isSchemeChar
    match cs.dropWhile isSchemeChar with
    | ':' :: '/' :: '/' :: rest =>
      if cs.length ≤ 3 then .ok (none, cs)
      else if 64 < scheme.length then .error .schemeTooLong
      else .ok (some (String.ofList scheme), rest)
    | _ => .ok (none, cs)

/-- The longest URI, in octets. -/
def maxLength : Nat := 65534

/-- Reads a URI of more than one character that starts with no slash. -/
def parseFull (cs : List Char) : Except UriError Uri := do
  let (scheme, rest) ← splitScheme cs
  let (authority, rest) ← splitAuthority rest
  match scheme with
  | none =>
    if !rest.isEmpty then throw .invalidFormat
    return ⟨none, String.ofList authority, PathQuery.none⟩
  | some scheme =>
    if authority.isEmpty then throw .invalidFormat
    return ⟨some scheme, String.ofList authority, ← PathQuery.parse rest⟩

def parse (s : String) : Except UriError Uri :=
  if maxLength < s.utf8ByteSize then .error .tooLong
  else match s.toList with
    | [] => .error .empty
    | ['/'] => .ok ⟨none, "", ⟨"/", none⟩⟩
    | ['*'] => .ok ⟨none, "", ⟨"*", none⟩⟩
    | [c] => do
      let (authority, rest) ← splitAuthority [c]
      if !rest.isEmpty then throw .invalidCharacter
      return ⟨none, String.ofList authority, PathQuery.none⟩
    | '/' :: rest => do return ⟨none, "", ← PathQuery.parse ('/' :: rest)⟩
    | cs => parseFull cs

/-- The URI names a scheme and an authority. -/
def isAbsolute (uri : Uri) : Bool := uri.scheme.isSome && uri.authority != ""

/-- The path: the root where an absolute URI writes none, nothing for an authority alone. -/
def path (uri : Uri) : String :=
  if uri.target.isEmpty && uri.scheme.isNone then "" else uri.target.pathOrRoot

/-- The path and query, unless the URI is an authority alone. -/
def target? (uri : Uri) : Option PathQuery :=
  if uri.scheme.isSome || uri.authority == "" then some uri.target else none

def text (uri : Uri) : String :=
  (match uri.scheme with | some scheme => scheme ++ "://" | none => "")
    ++ uri.authority ++ uri.path
    ++ (match uri.target.query with | some q => "?" ++ q | none => "")

/-- A URI made of parts: a scheme needs an authority, and an authority with a path needs a
scheme. -/
def ofParts (scheme : Option String) (authority : String) (target : PathQuery) :
    Except UriError Uri :=
  if scheme.isSome && authority == "" then .error .authorityMissing
  else if scheme.isNone && authority != "" then .error .schemeMissing
  else .ok ⟨scheme, authority, target⟩

/-- Reads a path and query on their own. -/
def parseTarget (s : String) : Except UriError PathQuery :=
  if maxLength < s.utf8ByteSize then .error .tooLong else PathQuery.parse s.toList

end Uri

/-- A method: a token, in the case in which it is written. -/
def method? (s : String) : Option String := if isToken (Utf8.encode s) then some s else none

/-- The words for a text that is no method. -/
def methodMessage : String := "invalid HTTP method"

end JobGate
