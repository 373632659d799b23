import JobGate.Gzip.Bits

/-!
# Prefix codes

A prefix code is given by the length of each symbol's code word: the words of one length are
consecutive numbers in the order of their symbols, and shorter words come first. A code is usable
when its words use up all bit sequences, or when it has at most one word.
-/
namespace JobGate

/-- The longest code word. -/
def maxCodeLength : Nat := 15

/-- A prefix code: how many words there are of each length from one up, and the symbols in the
order of their words. -/
structure PrefixCode where
  counts : List Nat
  symbols : Array Nat
  deriving DecidableEq

namespace PrefixCode

/-- The symbols whose words have a length, in order; `next` is the first symbol. -/
def symbolsOfLength (length : Nat) : Nat → List Nat → List Nat
  | _, [] => []
  | next, l :: rest =>
    if l == length then next :: symbolsOfLength length (next + 1) rest
    else symbolsOfLength length (next + 1) rest

/-- The lengths that a word can have. -/
def wordLengths : List Nat := (List.range maxCodeLength).map (· + 1)

/-- The code whose symbols have words of these lengths; zero stands for no word. -/
def ofLengths (lengths : List Nat) : PrefixCode :=
  let bySize := wordLengths.map fun l => symbolsOfLength l 0 lengths
  ⟨bySize.map List.length, bySize.flatten.toArray⟩

/-- How much of the bit sequences the words use up, where `2 ^ 15` is all. -/
def weight (code : PrefixCode) : Nat :=
  (code.counts.zip wordLengths).foldl
    (fun sum (count, length) => sum + count * Nat.pow 2 (maxCodeLength - length)) 0

/-- The words use up all bit sequences. -/
def isComplete (code : PrefixCode) : Bool := code.weight == Nat.pow 2 maxCodeLength

/-- The code may be used for literals or distances. -/
def isUsable (code : PrefixCode) : Bool := code.isComplete || code.symbols.size ≤ 1

/-- Reads on in a word of which `word` has been read: of the words of the next length the least is
`first`, and `index` symbols have shorter words. -/
def decodeFrom (symbols : Array Nat) :
    List Nat → Nat → Nat → Nat → BitInput → Inflated (Nat × BitInput)
  | [], _, _, _, _ => .error .corrupt
  | count :: counts, word, first, index, input => do
    let (b, input) ← input.bit
    let word := 2 * word + b.toNat
    if word < first + count then
      match symbols[index + (word - first)]? with
      | some symbol => return (symbol, input)
      | none => throw .corrupt
    else decodeFrom symbols counts word (2 * (first + count)) (index + count) input

/-- Reads a symbol. -/
def decode (code : PrefixCode) (input : BitInput) : Inflated (Nat × BitInput) :=
  decodeFrom code.symbols code.counts 0 0 0 input

end PrefixCode
end JobGate
