import JobGate.Decimal.Binary64

/-!
# The shortest decimal of a double

A double is written with the fewest decimal digits that round back to it, and among those with
the digits nearest to its value. `shortest` tests, for one digit, two digits and so on, the two
neighbours of the value on that decimal grid against the interval of numbers that round to the
double; the interval holds its ends when the mantissa is even.
-/
namespace JobGate.Binary64

/-- The largest exponent `p` with `10 ^ p ≤ num / den`, given that one of `p₀ - 1`, `p₀`, `p₀ + 1`
is it. -/
def leadingExponentNear (num den : Nat) (p₀ : Int) : Int :=
  let reached (p : Int) : Bool :=
    if 0 ≤ p then den * Nat.pow 10 p.toNat ≤ num else den ≤ num * Nat.pow 10 (-p).toNat
  if reached (p₀ + 1) then p₀ + 1 else if reached p₀ then p₀ else p₀ - 1

/-- The exponent of the first decimal digit of `num / den`, which is positive. -/
def leadingExponent (num den : Nat) : Int :=
  let bits : Int := (Nat.log2 num : Int) - (Nat.log2 den : Int)
  leadingExponentNear num den (Int.fdiv (bits * 30103) 100000)

/-- The interval of numbers that round to the double, in quarters of its unit: the lower end, the
upper end, and whether they belong to it. -/
def roundingInterval (x : Binary64) : Nat × Nat × Bool :=
  let below := if x.mantissa == 0x10000000000000 && x.exponent != -1074 then 1 else 2
  (4 * x.mantissa - below, 4 * x.mantissa + 2, x.mantissa % 2 == 0)

/-- Whether `digits * 10 ^ e` rounds to the double. -/
def readsBack (x : Binary64) (digits : Nat) (e : Int) : Bool :=
  let (low, high, closed) := x.roundingInterval
  -- both sides in the unit `2 ^ (exponent - 2) * 10 ^ (min e 0)`
  let tens := if 0 ≤ e then Nat.pow 10 e.toNat else 1
  let tenths := if 0 ≤ e then 1 else Nat.pow 10 (-e).toNat
  let q := x.exponent - 2
  let up := if 0 ≤ q then Nat.pow 2 q.toNat else 1
  let down := if 0 ≤ q then 1 else Nat.pow 2 (-q).toNat
  let d := digits * tens * down
  let l := low * up * tenths
  let h := high * up * tenths
  if closed then l ≤ d && d ≤ h else l < d && d < h

/-- The neighbours of the value on the grid of multiples of `10 ^ e`, the nearer one first and
half way the even one. -/
def neighbours (x : Binary64) (e : Int) : Nat × Nat :=
  let (num, den) := x.ratio
  let (n, d) := if 0 ≤ e then (num, den * Nat.pow 10 e.toNat) else (num * Nat.pow 10 (-e).toNat, den)
  let below := n / d
  let nearest := roundQuotient n d
  if nearest == below then (below, below + 1) else (below + 1, below)

/-- Tries `count` digits, one more, and so on; `left` grids are left to try. -/
def shortestFrom (x : Binary64) (lead : Int) : Nat → Nat → Nat × Int
  | 0, count => ((x.neighbours (lead - count + 1)).1, lead - count + 1)
  | left + 1, count =>
    let e := lead - count + 1
    let (near, far) := x.neighbours e
    if x.readsBack near e then (near, e)
    else if x.readsBack far e then (far, e)
    else shortestFrom x lead left (count + 1)

/-- Moves the zeros at the end of a number into the exponent; there are at most `left`. -/
def dropZeros : Nat → Nat → Int → Nat × Int
  | 0, digits, e => (digits, e)
  | left + 1, digits, e =>
    if digits % 10 == 0 && digits != 0 then dropZeros left (digits / 10) (e + 1) else (digits, e)

/-- The shortest digits of the magnitude and the exponent of the last one. Seventeen digits read
back for every double. -/
def shortest (x : Binary64) : Nat × Int :=
  if x.isZero then (0, 0)
  else
    let (num, den) := x.ratio
    let (digits, e) := shortestFrom x (leadingExponent num den) 16 1
    dropZeros 20 digits e

end JobGate.Binary64
