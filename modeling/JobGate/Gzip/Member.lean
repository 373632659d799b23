import JobGate.Gzip.Inflate

/-!
# Gzip members

A member is a header, a deflated stream, and a trailer with the checksum and length of what the
stream holds. The checksum is the cyclic redundancy check of 32 bits with the reversed polynomial
EDB88320, over octets whose low bit comes first. `gunzip` reads one member and gives what follows
it; a body is what its first member holds.
-/
namespace JobGate

/-- Takes one bit out of the register. -/
def crcShift (crc : UInt32) : UInt32 :=
  if crc % 2 == 1 then (crc >>> 1) ^^^ 0xEDB88320 else crc >>> 1

/-- Feeds an octet to the register. -/
def crcFeed (crc : UInt32) (o : UInt8) : UInt32 :=
  crcShift <| crcShift <| crcShift <| crcShift <| crcShift <| crcShift <| crcShift <| crcShift <|
    crc ^^^ o.toUInt32

/-- The checksum of octets. -/
def crc32 (b : Bytes) : UInt32 := b.foldl crcFeed 0xFFFFFFFF ^^^ 0xFFFFFFFF

/-- Why octets are no gzip member. -/
inductive GzipError where
  /-- The header or the trailer breaks off. -/
  | endOfFile
  | badHeader
  /-- A text of the header is too long. -/
  | longField
  | stream (e : InflateError)
  /-- A checksum or the length is not that of the content. -/
  | mismatch
  deriving DecidableEq

def GzipError.message : GzipError → String
  | .endOfFile => "unexpected end of file"
  | .badHeader => "invalid gzip header"
  | .longField => "gzip header field too long"
  | .stream .incomplete => "incomplete deflate stream"
  | .stream .corrupt => "corrupt deflate stream"
  | .mismatch => "corrupt gzip stream does not have a matching checksum"

namespace Gzip

/-- The first `n` octets and the others. -/
def take (n : Nat) (b : Bytes) : Except GzipError (Bytes × Bytes) :=
  let taken := b.take n
  if taken.length < n then .error .endOfFile else .ok (taken, b.drop n)

/-- The number that octets write, the low one first. -/
def ofLittleEndian (b : Bytes) : Nat := b.foldr (fun o n => o.toNat + 256 * n) 0

/-- The `count` octets of a number, the low one first. -/
def toLittleEndian : Nat → Nat → Bytes
  | 0, _ => []
  | count + 1, n => (n % 256).toUInt8 :: toLittleEndian count (n / 256)

/-- What follows the octets up to the first zero, of which there are at most 65535. -/
def skipText (b : Bytes) : Except GzipError Bytes :=
  match b.dropWhile (· != 0) with
  | [] => if 65535 < b.length then .error .longField else .error .endOfFile
  | _ :: rest => if 65535 + 1 + rest.length < b.length then .error .longField else .ok rest

def hasFlag (flags : UInt8) (n : Nat) : Bool := flags.toNat / Nat.pow 2 n % 2 == 1

/-- Reads a header and gives what follows it. -/
def readHeader (b : Bytes) : Except GzipError Bytes := do
  let (start, rest) ← take 10 b
  match start with
  | magic₁ :: magic₂ :: method :: flags :: _ =>
    if magic₁ != 0x1F || magic₂ != 0x8B || method != 8 || 32 ≤ flags then throw .badHeader
    let rest ←
      if hasFlag flags 2 then do
        let (length, rest) ← take 2 rest
        let (_, rest) ← take (ofLittleEndian length) rest
        pure rest
      else pure rest
    let rest ← if hasFlag flags 3 then skipText rest else pure rest
    let rest ← if hasFlag flags 4 then skipText rest else pure rest
    if hasFlag flags 1 then
      let (sum, after) ← take 2 rest
      let header := b.take (b.length - rest.length)
      if ofLittleEndian sum != (crc32 header).toNat % 65536 then throw .mismatch
      return after
    else return rest
  | _ => throw .endOfFile

/-- Reads a member: what it holds, and what follows it. -/
def readMember (b : Bytes) : Except GzipError (Bytes × Bytes) := do
  let stream ← readHeader b
  let (plain, rest) ← match inflate stream with
    | .ok r => pure r
    | .error e => throw (.stream e)
  let (sum, rest) ← take 4 rest
  let (length, rest) ← take 4 rest
  if ofLittleEndian sum != (crc32 plain).toNat
      || ofLittleEndian length != plain.length % 0x100000000 then
    throw .mismatch
  return (plain, rest)

/-- The header of the members that are written here: no name, no time, no particular system. -/
def header : Bytes := [0x1F, 0x8B, 8, 0, 0, 0, 0, 0, 0, 0xFF]

end Gzip

/-- What the first member of the octets holds. -/
def gunzip (b : Bytes) : Except GzipError Bytes := (Gzip.readMember b).map (·.1)

/-- A member that holds the octets. -/
def gzip (b : Bytes) : Bytes :=
  Gzip.header ++ deflate b ++ Gzip.toLittleEndian 4 (crc32 b).toNat
    ++ Gzip.toLittleEndian 4 b.length

/-- What the octets hold if they are one member and nothing else. -/
def wholeMember? (b : Bytes) : Option Bytes :=
  match Gzip.readMember b with
  | .ok (plain, []) => some plain
  | _ => none

/-- The plain body of a message: inflated if it is compressed. -/
def decodeBody (compressed : Bool) (b : Bytes) : Except GzipError Bytes :=
  if compressed then gunzip b else .ok b

/-- The body to send for a plain one: compressed if wanted. -/
def encodeBody (compressed : Bool) (b : Bytes) : Bytes := if compressed then gzip b else b

end JobGate
