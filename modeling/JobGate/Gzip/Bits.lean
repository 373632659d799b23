import JobGate.Bytes

/-!
# Reading bits

A compressed stream is read bit by bit, the low bit of each octet first. Numbers come with their low
bit first as well; whole octets start at the next octet border.
-/
namespace JobGate

/-- Why a compressed stream cannot be inflated. -/
inductive InflateError where
  /-- The stream ends too early. -/
  | incomplete
  /-- The stream breaks the rules of its format. -/
  | corrupt
  deriving DecidableEq

/-- The result of reading from a compressed stream. -/
abbrev Inflated := Except InflateError

/-- What is left to read: the bits left of the octet that was begun, then whole octets. -/
structure BitInput where
  pending : List Bool
  rest : Bytes
  deriving DecidableEq

namespace BitInput

/-- The bits of an octet, the low one first. -/
def bitsOf (o : UInt8) : List Bool :=
  let n := o.toNat
  [n % 2 == 1, n / 2 % 2 == 1, n / 4 % 2 == 1, n / 8 % 2 == 1, n / 16 % 2 == 1, n / 32 % 2 == 1,
    n / 64 % 2 == 1, n / 128 % 2 == 1]

/-- Octets of which nothing has been read. -/
def ofBytes (b : Bytes) : BitInput := ⟨[], b⟩

/-- The next bit. -/
def bit : BitInput → Inflated (Bool × BitInput)
  | ⟨b :: pending, rest⟩ => .ok (b, ⟨pending, rest⟩)
  | ⟨[], o :: rest⟩ => .ok (o.toNat % 2 == 1, ⟨(bitsOf o).tail, rest⟩)
  | ⟨[], []⟩ => .error .incomplete

/-- The number that the next `n` bits write, the low bit first. -/
def bits : Nat → BitInput → Inflated (Nat × BitInput)
  | 0, input => .ok (0, input)
  | n + 1, input => do
    let (b, input) ← input.bit
    let (v, input) ← bits n input
    return (b.toNat + 2 * v, input)

/-- Moves to the next octet border. -/
def align (input : BitInput) : BitInput := ⟨[], input.rest⟩

/-- The next `n` whole octets. -/
def octets (n : Nat) (input : BitInput) : Inflated (Bytes × BitInput) :=
  let taken := input.rest.take n
  if taken.length < n then .error .incomplete
  else .ok (taken, ⟨[], input.rest.drop n⟩)

end BitInput
end JobGate
