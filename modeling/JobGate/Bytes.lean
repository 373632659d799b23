/-!
# Octets

Bodies and header values are lists of octets. This module holds the octet classes that several
formats share: blanks around header tokens, decimal and hexadecimal digits, and letter case.
-/
namespace JobGate

/-- A sequence of octets. -/
abbrev Bytes := List UInt8

namespace Bytes

/-- The octets of an ASCII text; a character above U+007F keeps its low eight bits only. -/
def ofAscii (s : String) : Bytes := s.toList.map fun c => c.toNat.toUInt8

/-- The characters U+0000 to U+00FF that the octets number. -/
def toLatin1 (b : Bytes) : List Char := b.map fun o => Char.ofNat o.toNat

def isDigit (o : UInt8) : Bool := 0x30 ≤ o && o ≤ 0x39

def isLetter (o : UInt8) : Bool := (0x41 ≤ o && o ≤ 0x5A) || (0x61 ≤ o && o ≤ 0x7A)

/-- The value of a hexadecimal digit of either case. -/
def hexDigit? (o : UInt8) : Option Nat :=
  if 0x30 ≤ o && o ≤ 0x39 then some (o.toNat - 0x30)
  else if 0x61 ≤ o && o ≤ 0x66 then some (o.toNat - 0x61 + 10)
  else if 0x41 ≤ o && o ≤ 0x46 then some (o.toNat - 0x41 + 10)
  else none

/-- The octet with an ASCII capital made small. -/
def lower (o : UInt8) : UInt8 := if 0x41 ≤ o && o ≤ 0x5A then o + 0x20 else o

/-- The octet with an ASCII small letter made capital. -/
def upper (o : UInt8) : UInt8 := if 0x61 ≤ o && o ≤ 0x7A then o - 0x20 else o

/-- The digit that writes a number below sixteen, small letters above nine. -/
def hexChar (n : Nat) : Char :=
  if n < 10 then Char.ofNat (0x30 + n) else Char.ofNat (0x61 + (n - 10))

end Bytes
end JobGate
