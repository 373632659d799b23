import JobGate.Decimal.Binary64
import JobGate.Text.Classes

/-!
# Durations

A duration text is a sequence of segments, each a decimal number with a unit: `1m30s`, `250ms`. A
segment lasts its number, as a double, times its unit in seconds, as a double, rounded to whole
nanoseconds and half way to the even one. A bare `0` is a duration too, and so is a text without
segments.
-/
namespace JobGate

/-- A duration of whole nanoseconds, shorter than 2^64 seconds. -/
structure Duration where
  nanos : Nat
  bounded : nanos < 0x10000000000000000 * 1000000000
  deriving DecidableEq

/-- Why a text is no duration. -/
inductive DurationError where
  | invalidUnit
  | noUnit
  | negative
  | outOfRange
  /-- A segment has no number at all. -/
  | emptyNumber
  | invalidNumber
  deriving DecidableEq

/-- The units that a duration may have, in words. -/
def unitsHint : String := "expected one of 'ms', 's', 'm', or 'h'"

def DurationError.message : DurationError → String
  | .invalidUnit => "invalid unit: " ++ unitsHint
  | .noUnit => "missing a unit: " ++ unitsHint
  | .negative => "durations must not be negative"
  | .outOfRange => "duration is out of range"
  | .emptyNumber => "invalid number: cannot parse float from empty string"
  | .invalidNumber => "invalid number: invalid float literal"

namespace Duration

/-- The duration of that many nanoseconds, if it is in range. -/
def ofNanos? (nanos : Nat) : Option Duration :=
  if h : nanos < 0x10000000000000000 * 1000000000 then some ⟨nanos, h⟩ else none

def zero : Duration := ⟨0, by decide⟩

instance : Inhabited Duration := ⟨zero⟩

/-- The duration of that many seconds, if it is in range. -/
def ofSeconds? (seconds : Nat) : Option Duration := ofNanos? (seconds * 1000000000)

/-- The duration of that many milliseconds, if it is in range. -/
def ofMillis? (millis : Nat) : Option Duration := ofNanos? (millis * 1000000)

def seconds (d : Duration) : Nat := d.nanos / 1000000000

/-- The nanoseconds beyond the whole seconds. -/
def subNanos (d : Duration) : Nat := d.nanos % 1000000000

/-- A number and its unit, as written; only the last unit of a text may be empty. -/
abbrev Segment := List Char × List Char

/-- The segments of a text: a segment ends where letters end. -/
def segments : List Char → List Segment
  | [] => []
  | c :: rest =>
    match segments rest with
    | [] => if isAlphabetic c then [([], [c])] else [([c], [])]
    | (number, unit) :: others =>
      if isAlphabetic c then
        if number.isEmpty then ([], c :: unit) :: others
        else ([], [c]) :: (number, unit) :: others
      else (c :: number, unit) :: others

/-- A unit in seconds, as the double nearest to it. -/
def unitSeconds? (unit : List Char) : Option Binary64 :=
  if unit = ['m', 's'] then Binary64.ofRatio false 1 1000
  else if unit = ['s'] then Binary64.ofNat 1
  else if unit = ['m'] then Binary64.ofNat 60
  else if unit = ['h'] then Binary64.ofNat 3600
  else none

/-- The value of decimal digits. -/
def digitsValue (cs : List Char) : Nat := cs.foldl (fun n c => n * 10 + (c.toNat - 0x30)) 0

/-- The sign of a number and what follows it. -/
def splitSign : List Char → Bool × List Char
  | '-' :: rest => (true, rest)
  | '+' :: rest => (false, rest)
  | cs => (false, cs)

/-- Reads a number: a sign, digits, and a point with digits, with at least one digit in all. The
inner `none` is a number too large for a double. -/
def parseNumber (cs : List Char) : Except DurationError (Option Binary64) :=
  if cs.isEmpty then .error .emptyNumber
  else
    let (negative, cs) := splitSign cs
    let whole := cs.takeWhile Char.isDigit
    match cs.dropWhile Char.isDigit with
    | [] =>
      if whole.isEmpty then .error .invalidNumber
      else .ok (Binary64.ofDecimal negative (digitsValue whole) 0)
    | '.' :: fraction =>
      if !fraction.all Char.isDigit || (whole.isEmpty && fraction.isEmpty) then
        .error .invalidNumber
      else
        .ok (Binary64.ofDecimal negative (digitsValue (whole ++ fraction)) (-fraction.length))
    | _ => .error .invalidNumber

/-- A double of seconds in whole nanoseconds; none if it is below zero. -/
def nanosOf? (x : Binary64) : Option Nat :=
  if x.negative && !x.isZero then none
  else
    let (num, den) := x.ratio
    some (Binary64.roundQuotient (num * 1000000000) den)

/-- How long a segment lasts. -/
def ofSegment (segment : Segment) : Except DurationError Duration :=
  if segment.2.isEmpty then .error .noUnit
  else match parseNumber segment.1 with
    | .error e => .error e
    | .ok number => match unitSeconds? segment.2 with
      | none => .error .invalidUnit
      | some unit =>
        match ((number.bind unit.mul).bind nanosOf?).bind ofNanos? with
        | some d => .ok d
        | none => .error .outOfRange

/-- The sum of two durations, if it is in range. -/
def add? (a b : Duration) : Option Duration := ofNanos? (a.nanos + b.nanos)

/-- Adds the next segment to what came before it. -/
def addSegment (total : Duration) (segment : Segment) : Except DurationError Duration :=
  match ofSegment segment with
  | .error e => .error e
  | .ok part => match total.add? part with
    | some sum => .ok sum
    | none => .error .outOfRange

def parse (text : String) : Except DurationError Duration :=
  let cs := trimBlanks text.toList
  if cs.head? = some '-' then .error .negative
  else if cs = ['0'] then .ok zero
  else (segments (cs.dropWhile (· == '+'))).foldlM addSegment zero

/-- Digits without the zeros at their end. -/
def dropEndZeros (cs : List Char) : List Char := (cs.reverse.dropWhile (· == '0')).reverse

/-- A number with a fraction of `places` digits, without zeros at its end. -/
def writeFraction (whole fraction places : Nat) : String :=
  let digits := Nat.toDigits 10 fraction
  let digits := dropEndZeros (List.replicate (places - digits.length) '0' ++ digits)
  toString whole ++ (if fraction == 0 then "" else "." ++ String.ofList digits)

/-- A duration as shown in messages: in the largest unit of seconds, milliseconds, microseconds and
nanoseconds that it fills. -/
def text (d : Duration) : String :=
  if 1000000000 ≤ d.nanos then writeFraction d.seconds d.subNanos 9 ++ "s"
  else if 1000000 ≤ d.nanos then writeFraction (d.nanos / 1000000) (d.nanos % 1000000) 6 ++ "ms"
  else if 1000 ≤ d.nanos then writeFraction (d.nanos / 1000) (d.nanos % 1000) 3 ++ "µs"
  else toString d.nanos ++ "ns"

end Duration
end JobGate
