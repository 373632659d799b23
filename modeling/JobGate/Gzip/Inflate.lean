import JobGate.Gzip.Huffman

/-!
# Inflating

A deflated stream is a sequence of blocks, the last of them marked. A block holds octets as they
are, or symbols of a prefix code: literal octets and references to what was written before. A
reference to before the beginning reads zeros. `deflate` writes blocks that hold the octets as they
are, which every reader of the format takes.
-/
namespace JobGate

/-- The base and the number of extra bits of each length symbol, from 257 on. -/
def lengthSymbols : Array (Nat × Nat) := #[
  (3, 0), (4, 0), (5, 0), (6, 0), (7, 0), (8, 0), (9, 0), (10, 0), (11, 1), (13, 1), (15, 1),
  (17, 1), (19, 2), (23, 2), (27, 2), (31, 2), (35, 3), (43, 3), (51, 3), (59, 3), (67, 4),
  (83, 4), (99, 4), (115, 4), (131, 5), (163, 5), (195, 5), (227, 5), (258, 0)]

/-- The base and the number of extra bits of each distance symbol. -/
def distanceSymbols : Array (Nat × Nat) := #[
  (1, 0), (2, 0), (3, 0), (4, 0), (5, 1), (7, 1), (9, 2), (13, 2), (17, 3), (25, 3), (33, 4),
  (49, 4), (65, 5), (97, 5), (129, 6), (193, 6), (257, 7), (385, 7), (513, 8), (769, 8), (1025, 9),
  (1537, 9), (2049, 10), (3073, 10), (4097, 11), (6145, 11), (8193, 12), (12289, 12), (16385, 13),
  (24577, 13)]

/-- The code of literals and lengths that a block may use without giving its own. -/
def fixedLiterals : PrefixCode :=
  .ofLengths (List.replicate 144 8 ++ List.replicate 112 9 ++ List.replicate 24 7
    ++ List.replicate 8 8)

/-- The code of distances that goes with it. -/
def fixedDistances : PrefixCode := .ofLengths (List.replicate 32 5)

/-- The order in which a block gives the lengths of the words that code its other lengths. -/
def lengthOrder : List Nat := [16, 17, 18, 0, 8, 7, 9, 6, 10, 5, 11, 4, 12, 3, 13, 2, 14, 1, 15]

/-- Reads `n` lengths of three bits. -/
def readShortLengths : Nat → BitInput → Inflated (List Nat × BitInput)
  | 0, input => .ok ([], input)
  | n + 1, input => do
    let (l, input) ← input.bits 3
    let (ls, input) ← readShortLengths n input
    return (l :: ls, input)

/-- The code of lengths, from the lengths of its words in the order in which a block gives them. -/
def lengthCode (given : List Nat) : PrefixCode :=
  let table := lengthOrder.zip given
  .ofLengths ((List.range 19).map fun symbol => (table.lookup symbol).getD 0)

/-- Reads lengths until there are `total`; `acc` holds those read, the last one first. Every
symbol gives at least one length, so `fuel` is their number. -/
def readLengths (code : PrefixCode) (total : Nat) :
    Nat → List Nat → BitInput → Inflated (List Nat × BitInput)
  | 0, acc, input => .ok (acc.reverse, input)
  | fuel + 1, acc, input =>
    if acc.length == total then .ok (acc.reverse, input)
    else do
      let (symbol, input) ← code.decode input
      if symbol < 16 then readLengths code total fuel (symbol :: acc) input
      else
        let (length, base, extra) ← match symbol, acc with
          | 16, [] => throw .corrupt
          | 16, last :: _ => pure (last, 3, 2)
          | 17, _ => pure (0, 3, 3)
          | _, _ => pure (0, 11, 7)
        let (more, input) ← input.bits extra
        let acc := List.replicate (base + more) length ++ acc
        if total < acc.length then throw .corrupt
        readLengths code total fuel acc input

/-- Reads the two codes of a block that gives its own. -/
def readCodes (input : BitInput) : Inflated ((PrefixCode × PrefixCode) × BitInput) := do
  let (literals, input) ← input.bits 5
  let (distances, input) ← input.bits 5
  let (given, input) ← input.bits 4
  let literals := literals + 257
  let distances := distances + 1
  if 286 < literals || 30 < distances then throw .corrupt
  let (given, input) ← readShortLengths (given + 4) input
  let code := lengthCode given
  if !code.isComplete then throw .corrupt
  let total := literals + distances
  let (lengths, input) ← readLengths code total total [] input
  let literalCode := PrefixCode.ofLengths (lengths.take literals)
  let distanceCode := PrefixCode.ofLengths (lengths.drop literals)
  if !literalCode.isUsable || !distanceCode.isUsable then throw .corrupt
  return ((literalCode, distanceCode), input)

/-- Writes again what stands `distance` octets back, octet by octet. -/
def copyBack (distance : Nat) : Nat → Array UInt8 → Array UInt8
  | 0, out => out
  | n + 1, out =>
    let o := if distance ≤ out.size then out[out.size - distance]?.getD 0 else 0
    copyBack distance n (out.push o)

/-- Reads a symbol's value: its base and as many extra bits as it takes. -/
def readExtra (symbols : Array (Nat × Nat)) (symbol : Nat) (input : BitInput) :
    Inflated (Nat × BitInput) :=
  match symbols[symbol]? with
  | none => .error .corrupt
  | some (base, extra) => do
    let (more, input) ← input.bits extra
    return (base + more, input)

/-- Reads the symbols of a block up to its end. Every symbol takes at least one bit, so the number
of bits bounds them. -/
def readSymbols (literals distances : PrefixCode) :
    Nat → Array UInt8 → BitInput → Inflated (Array UInt8 × BitInput)
  | 0, _, _ => .error .incomplete
  | fuel + 1, out, input => do
    let (symbol, input) ← literals.decode input
    if symbol < 256 then readSymbols literals distances fuel (out.push symbol.toUInt8) input
    else if symbol == 256 then return (out, input)
    else
      let (length, input) ← readExtra lengthSymbols (symbol - 257) input
      let (symbol, input) ← distances.decode input
      let (distance, input) ← readExtra distanceSymbols symbol input
      readSymbols literals distances fuel (copyBack distance length out) input

/-- The number that two octets write, the low one first. -/
def word16 (low high : UInt8) : Nat := low.toNat + 256 * high.toNat

/-- Reads a block that holds octets as they are. -/
def readStored (out : Array UInt8) (input : BitInput) : Inflated (Array UInt8 × BitInput) := do
  let (head, input) ← input.align.octets 4
  match head with
  | [a, b, c, d] =>
    let length := word16 a b
    if length + word16 c d != 65535 then throw .corrupt
    let (stored, input) ← input.octets length
    return (out ++ stored.toArray, input)
  | _ => throw .incomplete

/-- Reads blocks up to the last. Every block takes at least three bits. -/
def readBlocks : Nat → Array UInt8 → BitInput → Inflated (Array UInt8 × BitInput)
  | 0, _, _ => .error .incomplete
  | fuel + 1, out, input => do
    let (last, input) ← input.bit
    let (kind, input) ← input.bits 2
    let symbolFuel := 8 * input.rest.length + 9
    let (out, input) ← match kind with
      | 0 => readStored out input
      | 1 => readSymbols fixedLiterals fixedDistances symbolFuel out input
      | 2 => do
        let ((literals, distances), input) ← readCodes input
        readSymbols literals distances symbolFuel out input
      | _ => throw .corrupt
    if last then return (out, input) else readBlocks fuel out input

/-- Inflates the stream at the front of the octets, and gives those after it. -/
def inflate (b : Bytes) : Inflated (Bytes × Bytes) := do
  let (out, input) ← readBlocks (8 * b.length + 1) #[] (.ofBytes b)
  return (out.toList, input.rest)

/-- The two octets of a number below 65536, the low one first. -/
def octets16 (n : Nat) : Bytes := [(n % 256).toUInt8, (n / 256).toUInt8]

/-- A block that holds up to 65535 octets as they are. -/
def storedBlock (last : Bool) (b : Bytes) : Bytes :=
  (if last then 1 else 0) :: octets16 b.length ++ octets16 (65535 - b.length) ++ b

/-- Blocks for the octets; `fuel` is at least the number of full blocks among them. -/
def storedBlocks : Nat → Bytes → Bytes
  | 0, b => storedBlock true (b.take 65535)
  | fuel + 1, b =>
    if b.length ≤ 65535 then storedBlock true b
    else storedBlock false (b.take 65535) ++ storedBlocks fuel (b.drop 65535)

/-- A stream that inflates to the octets. -/
def deflate (b : Bytes) : Bytes := storedBlocks (b.length / 65535) b

end JobGate
