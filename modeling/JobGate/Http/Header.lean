import JobGate.Bytes
import JobGate.Text.Classes
import JobGate.Text.Utf8

/-!
# Headers

The headers of a message are a list of names and values; a name may stand several times, and the
values of one name keep their order. Names are compared without regard to case and kept in small
letters. Where a value is read as text it must be visible ASCII, else it counts as absent.
-/
namespace JobGate

/-- A character of a token: the marks that may stand in header names and methods, digits, and
letters. -/
def isTokenOctet (o : UInt8) : Bool :=
  Bytes.isDigit o || Bytes.isLetter o
    || [0x21, 0x23, 0x24, 0x25, 0x26, 0x27, 0x2A, 0x2B, 0x2D, 0x2E, 0x5E, 0x5F, 0x60, 0x7C,
      0x7E].contains o

def isToken (b : Bytes) : Bool := !b.isEmpty && b.all isTokenOctet

/-- The name of a header, in small letters. -/
def headerName? (b : Bytes) : Option String :=
  if isToken b then some (String.ofList (Bytes.toLatin1 (b.map Bytes.lower))) else none

/-- An octet that may stand in the value of a header: no control but the tab. -/
def isValueOctet (o : UInt8) : Bool := (0x20 ≤ o && o != 0x7F) || o == 0x09

/-- The octets may be the value of a header. -/
def isHeaderValue (b : Bytes) : Bool := b.all isValueOctet

/-- The value of a header that spells a text. -/
def headerValue? (s : String) : Option Bytes :=
  let b := Utf8.encode s
  if isHeaderValue b then some b else none

/-- An octet of a value that can be read as text. -/
def isVisibleOctet (o : UInt8) : Bool := (0x20 ≤ o && o < 0x7F) || o == 0x09

/-- A value read as text. -/
def visibleText? (b : Bytes) : Option (List Char) :=
  if b.all isVisibleOctet then some (Bytes.toLatin1 b) else none

abbrev Headers := List (String × Bytes)

namespace Headers

/-- The values of a name, in order. -/
def all (name : String) (headers : Headers) : List Bytes :=
  headers.filterMap fun (n, v) => if n = name then some v else none

def first? (name : String) (headers : Headers) : Option Bytes := (headers.all name).head?

/-- The headers without a name. -/
def remove (name : String) (headers : Headers) : Headers := headers.filter fun (n, _) => n ≠ name

/-- The headers without several names. -/
def removeAll (names : List String) (headers : Headers) : Headers :=
  headers.filter fun (n, _) => !names.contains n

/-- The headers with one value in place of all that a name had. -/
def put (name : String) (value : Bytes) (headers : Headers) : Headers :=
  headers.remove name ++ [(name, value)]

/-- The first value of a name as text. -/
def firstText? (name : String) (headers : Headers) : Option (List Char) :=
  (headers.first? name).bind visibleText?

/-- The comma-separated entries of all values of a name that can be read as text. -/
def entries (name : String) (headers : Headers) : List (List Char) :=
  ((headers.all name).filterMap visibleText?).flatMap commaEntries

/-- A text with ASCII capitals made small. -/
def lowerAscii (cs : List Char) : List Char := cs.map Char.toLower

/-- Whether the body of the message is said to be compressed with gzip. -/
def declaresGzip (headers : Headers) : Bool :=
  (headers.entries "content-encoding").any fun coding => lowerAscii coding == "gzip".toList

/-- The headers that frame a body of that length, whatever framed it before. -/
def announceLength (length : Nat) (headers : Headers) : Headers :=
  (headers.remove "transfer-encoding").put "content-length" (Bytes.ofAscii (toString length))

end Headers
end JobGate
