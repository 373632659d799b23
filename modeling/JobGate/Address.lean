/-!
# Network addresses

Addresses of hosts and of sockets, as texts. An address of sixteen octets is written with its
longest run of zero groups left out, and one that stands for an address of four octets with these
at its end.
-/
namespace JobGate

/-- The address of a host. -/
inductive HostAddress where
  | v4 (a b c d : UInt8)
  | v6 (groups : Vector UInt16 8)
  deriving DecidableEq

/-- The address of a socket; `scope` is used by addresses of sixteen octets only. -/
structure SocketAddress where
  host : HostAddress
  portNumber : UInt16
  scope : UInt32 := 0
  deriving DecidableEq

namespace HostAddress

/-- The address that stands for every host. -/
def unspecified : HostAddress := .v4 0 0 0 0

instance : Inhabited HostAddress := ⟨unspecified⟩

/-- The start and length of the longest run of zeros; of equal ones the first. `index` groups came
before, and the last `current` of them are zeros. -/
def longestZeros : List UInt16 → Nat → Nat → Nat × Nat → Nat × Nat
  | [], _, _, best => best
  | g :: rest, index, current, best =>
    if g == 0 then
      let run := current + 1
      longestZeros rest (index + 1) run
        (if best.2 < run then (index + 1 - run, run) else best)
    else longestZeros rest (index + 1) 0 best

/-- Groups in hexadecimal digits, separated by colons. -/
def groupsText (groups : List UInt16) : String :=
  String.intercalate ":" (groups.map fun g => String.ofList (Nat.toDigits 16 g.toNat))

/-- Four octets in decimal digits, separated by points. -/
def octetsText (a b c d : UInt8) : String :=
  String.intercalate "." ([a, b, c, d].map fun o => toString o.toNat)

def groupOctets (g : UInt16) : UInt8 × UInt8 := ((g.toNat / 256).toUInt8, (g.toNat % 256).toUInt8)

/-- The text of an address of eight groups. -/
def groupsAddressText (groups : List UInt16) : String :=
  match groups with
  | [0, 0, 0, 0, 0, 0xFFFF, g, h] =>
    let (a, b) := groupOctets g
    let (c, d) := groupOctets h
    "::ffff:" ++ octetsText a b c d
  | _ =>
    let (start, length) := longestZeros groups 0 0 (0, 0)
    if 1 < length then
      groupsText (groups.take start) ++ "::" ++ groupsText (groups.drop (start + length))
    else groupsText groups

def text : HostAddress → String
  | .v4 a b c d => octetsText a b c d
  | .v6 groups => groupsAddressText groups.toList

/-- A reader of the front of a text. -/
abbrev Reader (α : Type) := List Char → Option (α × List Char)

def char (c : Char) : Reader Unit
  | [] => none
  | d :: rest => if d == c then some ((), rest) else none

/-- The value of a digit in a base up to sixteen. -/
def digit? (base : Nat) (c : Char) : Option Nat :=
  let n := c.toNat
  let v :=
    if 0x30 ≤ n && n ≤ 0x39 then n - 0x30
    else if 0x61 ≤ n && n ≤ 0x66 then n - 0x61 + 10
    else if 0x41 ≤ n && n ≤ 0x46 then n - 0x41 + 10
    else base
  if v < base then some v else none

/-- Reads all digits at the front: the number and how many there were. -/
def digits (base : Nat) : List Char → Nat → Nat → (Nat × Nat) × List Char
  | [], n, count => ((n, count), [])
  | c :: rest, n, count =>
    match digit? base c with
    | some d => digits base rest (n * base + d) (count + 1)
    | none => ((n, count), c :: rest)

/-- Reads a number below `bound` of at most `most` digits. -/
def number (base bound most : Nat) (zeroPrefix : Bool) : Reader Nat := fun cs =>
  let ((n, count), rest) := digits base cs 0 0
  if count == 0 || most < count || bound ≤ n then none
  else if !zeroPrefix && cs.head? == some '0' && 1 < count then none
  else some (n, rest)

/-- Reads four octets. -/
def readOctets : Reader (UInt8 × UInt8 × UInt8 × UInt8) := fun cs => do
  let octet := number 10 256 3 false
  let (a, cs) ← octet cs
  let (_, cs) ← char '.' cs
  let (b, cs) ← octet cs
  let (_, cs) ← char '.' cs
  let (c, cs) ← octet cs
  let (_, cs) ← char '.' cs
  let (d, cs) ← octet cs
  return ((a.toUInt8, b.toUInt8, c.toUInt8, d.toUInt8), cs)

def octetGroup (a b : UInt8) : UInt16 := (a.toNat * 256 + b.toNat).toUInt16

/-- Reads up to `room` groups, separated by colons; `first` says that none was read yet. Four
octets may stand for the last two. The flag says whether they did. -/
def readGroups : Nat → Bool → List Char → (List UInt16 × Bool) × List Char
  | 0, _, cs => (([], false), cs)
  | room + 1, first, cs =>
    let afterColon := if first then some cs else (char ':' cs).map (·.2)
    match afterColon with
    | none => (([], false), cs)
    | some rest =>
      match (if room == 0 then none else readOctets rest) with
      | some ((a, b, c, d), rest) => (([octetGroup a b, octetGroup c d], true), rest)
      | none => match number 16 65536 4 true rest with
        | some (g, rest) =>
          let ((more, mapped), rest) := readGroups room false rest
          ((g.toUInt16 :: more, mapped), rest)
        | none => (([], false), cs)

/-- The address of eight groups. -/
def ofGroups? (groups : List UInt16) : Option HostAddress :=
  if h : groups.length = 8 then some (.v6 ⟨groups.toArray, by simpa using h⟩) else none

/-- Reads an address of eight groups, of which a run of zeros may be left out. -/
def readV6 : Reader HostAddress := fun cs => do
  let ((head, mapped), cs) := readGroups 8 true cs
  if head.length == 8 then return (← ofGroups? head, cs)
  if mapped then none
  else
    let (_, cs) ← char ':' cs
    let (_, cs) ← char ':' cs
    let ((tail, _), cs) := readGroups (7 - head.length) true cs
    let zeros := List.replicate (8 - head.length - tail.length) 0
    return (← ofGroups? (head ++ zeros ++ tail), cs)

/-- Reads an address of four octets. -/
def readV4 : Reader HostAddress := fun cs =>
  (readOctets cs).map fun ((a, b, c, d), rest) => (.v4 a b c d, rest)

/-- What a reader makes of a whole text. -/
def whole {α : Type} (reader : Reader α) (s : String) : Option α :=
  match reader s.toList with
  | some (a, []) => some a
  | _ => none

def parse? (s : String) : Option HostAddress := (whole readV4 s).orElse fun _ => whole readV6 s

end HostAddress

namespace SocketAddress

open HostAddress

def text (address : SocketAddress) : String :=
  let ending := ":" ++ toString address.portNumber.toNat
  match address.host with
  | .v4 _ _ _ _ => address.host.text ++ ending
  | .v6 _ =>
    let scope := if address.scope == 0 then "" else "%" ++ toString address.scope.toNat
    "[" ++ address.host.text ++ scope ++ "]" ++ ending

/-- Reads a colon and the number after it. -/
def readPortNumber : Reader UInt16 := fun cs => do
  let (_, cs) ← char ':' cs
  let (n, cs) ← number 10 65536 cs.length true cs
  return (n.toUInt16, cs)

/-- Reads the address of a socket with a host of four octets. -/
def readV4 : Reader SocketAddress := fun cs => do
  let (host, cs) ← HostAddress.readV4 cs
  let (portNumber, cs) ← readPortNumber cs
  return (⟨host, portNumber, 0⟩, cs)

/-- Reads a percent sign and a scope, if there are any. -/
def readScope : Reader UInt32 := fun cs =>
  match char '%' cs with
  | none => some (0, cs)
  | some (_, cs) =>
    (number 10 0x100000000 cs.length true cs).map fun (n, rest) => (n.toUInt32, rest)

/-- Reads the address of a socket with a host of eight groups. -/
def readV6 : Reader SocketAddress := fun cs => do
  let (_, cs) ← char '[' cs
  let (host, cs) ← HostAddress.readV6 cs
  let (scope, cs) ← readScope cs
  let (_, cs) ← char ']' cs
  let (portNumber, cs) ← readPortNumber cs
  return (⟨host, portNumber, scope⟩, cs)

def parse? (s : String) : Option SocketAddress := (whole readV4 s).orElse fun _ => whole readV6 s

end SocketAddress
end JobGate
