import JobGate.Decimal.Shortest

/-!
# Layouts of decimals

How the shortest digits of a double become a text. A layout says for which exponents of the first
digit the number is written out with a point; the others get an exponent with its sign. A number
without fraction ends in `.0`, and an exponent follows the digits directly when there is only one.
-/
namespace JobGate

/-- For which exponents of the first digit a number is written without an exponent. -/
structure DecimalLayout where
  /-- The least such exponent. -/
  least : Int
  /-- The greatest such exponent. -/
  greatest : Int

namespace DecimalLayout

/-- Documents, and messages about them, write numbers from 0.00001 to below 10^16 without an
exponent. -/
def document : DecimalLayout := ⟨-5, 15⟩

/-- Whether a number whose first digit has exponent `p` is written without an exponent. -/
def isPositional (layout : DecimalLayout) (p : Int) : Bool :=
  layout.least ≤ p && p ≤ layout.greatest

/-- The digits with a point, where the first digit has exponent `p`. -/
def positional (digits : List Char) (p : Int) : List Char :=
  if p < 0 then ['0', '.'] ++ List.replicate (-p - 1).toNat '0' ++ digits
  else
    let whole := p.toNat + 1
    if digits.length ≤ whole then
      digits ++ List.replicate (whole - digits.length) '0' ++ ['.', '0']
    else digits.take whole ++ '.' :: digits.drop whole

/-- The digits with an exponent, where the first digit has exponent `p`. -/
def scientific (digits : List Char) (p : Int) : List Char :=
  let sign := if p < 0 then '-' else '+'
  let fraction := digits.drop 1
  digits.take 1 ++ (if fraction.isEmpty then [] else '.' :: fraction)
    ++ 'e' :: sign :: Nat.toDigits 10 p.natAbs

/-- The text of a double. -/
def write (layout : DecimalLayout) (x : Binary64) : String :=
  let (digits, e) := x.shortest
  let digits := Nat.toDigits 10 digits
  let p := e + digits.length - 1
  let body := if layout.isPositional p then positional digits p else scientific digits p
  String.ofList (if x.negative then '-' :: body else body)

end DecimalLayout
end JobGate
