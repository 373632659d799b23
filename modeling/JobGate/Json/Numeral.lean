import JobGate.Json.Draft

/-!
# Numerals

A numeral is the spelling of a number in a document. Without fraction and exponent, and within
the range of whole numbers, it denotes a whole number; every other numeral denotes a double. The
double is found in two roundings: as many digits as fit 64 bits are taken as a whole number and
rounded, and the result is multiplied or divided by the rounded power of ten.
-/
namespace JobGate

/-- The spelling of a number: sign, digits before the point, digits after it, and the exponent
with its sign. -/
structure Numeral where
  negative : Bool
  whole : List Nat
  fraction : Option (List Nat)
  exponent : Option (Bool × List Nat)
  deriving DecidableEq

namespace Numeral

/-- The greatest number of 64 bits. -/
def maxWhole : Nat := 0xFFFFFFFFFFFFFFFF

/-- Appends digits to a number as long as the result fits 64 bits: the number, and how many
digits were left out. -/
def accumulate : Nat → List Nat → Nat × Nat
  | n, [] => (n, 0)
  | n, d :: rest =>
    if n * 10 + d ≤ maxWhole then accumulate (n * 10 + d) rest else (n, rest.length + 1)

/-- The number that digits spell. -/
def ofDigits (digits : List Nat) : Nat := digits.foldl (fun n d => n * 10 + d) 0

/-- The power of ten as a double. -/
def powerOfTen (n : Nat) : Option Binary64 := Binary64.ofNat (Nat.pow 10 n)

/-- Divides by `10 ^ n`, in steps of at most `10 ^ 308`; after two full steps nothing is left of
a number below 2^64. -/
def divideByPower (x : Binary64) (n : Nat) : Option Binary64 :=
  if n ≤ 308 then (powerOfTen n).bind x.div
  else if n ≤ 616 then
    (powerOfTen 308).bind fun p => (x.div p).bind fun y => (powerOfTen (n - 308)).bind y.div
  else some (Binary64.zero false)

/-- The double for `significand * 10 ^ exponent`. -/
def scaled (significand : Nat) (exponent : Int) : Except SyntaxError Binary64 :=
  let result :=
    match Binary64.ofNat significand with
    | none => none
    | some x =>
      if exponent < 0 then divideByPower x exponent.natAbs
      else if x.isZero then some x
      else if exponent ≤ 308 then (powerOfTen exponent.toNat).bind x.mul
      else none
  match result with
  | some x => .ok x
  | none => .error .numberOutOfRange

/-- The greatest exponent that is told from an arbitrarily large one. -/
def maxExponent : Nat := 0x7FFFFFFF

/-- The digits of the whole part and of the fraction that fit 64 bits, and the exponent of the
last of them. -/
def significand (n : Numeral) : Nat × Int :=
  let (s, dropped) := accumulate 0 n.whole
  match n.fraction with
  | none => (s, dropped)
  | some digits =>
    let (s, left) := accumulate s digits
    (s, (dropped : Int) - ((digits.length - left : Nat) : Int))

/-- The magnitude as a double. -/
def magnitude (n : Numeral) : Except SyntaxError Binary64 :=
  let (s, e) := n.significand
  match n.exponent with
  | none => scaled s e
  | some (down, digits) =>
    let k := ofDigits digits
    if maxExponent < k then
      if s == 0 || down then .ok (Binary64.zero false) else .error .numberOutOfRange
    else scaled s (if down then e - k else e + k)

/-- The number that a numeral denotes. -/
def value (n : Numeral) : Except SyntaxError Number :=
  let whole := ofDigits n.whole
  let isWhole := n.fraction.isNone && n.exponent.isNone
    && (if n.negative then 0 < whole && whole ≤ 0x8000000000000000 else whole ≤ maxWhole)
  if isWhole then .ok (.whole (if n.negative then -(whole : Int) else whole))
  else n.magnitude.map fun x => .double (if n.negative then x.negate else x)

end Numeral
end JobGate
