import JobGate.Gzip.Member
import Mathlib.Algebra.Group.Nat.Defs

/-!
Members that are written can be read: `inflate` takes blocks that hold octets as they are back to
the octets (`inflate_deflate`), and `gunzip` takes a member back to what it holds whatever follows
it (`readMember_gzip`, `gunzip_gzip`). So bodies are decoded from what they are encoded to, with
and without compression (`decodeBody_encodeBody`).
-/
namespace JobGate

theorem word16_octets16 {n : Nat} (small : n ≤ 65535) :
    word16 (n % 256).toUInt8 (n / 256).toUInt8 = n := by
  have low : (n % 256).toUInt8.toNat = n % 256 := by simp
  have high : (n / 256).toUInt8.toNat = n / 256 := by
    rw [Nat.toUInt8_eq, UInt8.toNat_ofNat']; omega
  rw [word16, low, high]
  omega

theorem octets_append (b rest : Bytes) :
    BitInput.octets b.length ⟨[], b ++ rest⟩ = .ok (b, ⟨[], rest⟩) := by
  simp [BitInput.octets]

/-- A block is read up to its end; the bits left of its first octet are skipped. -/
theorem readStored_storedBlock (out : Array UInt8) (skipped : List Bool) (b rest : Bytes)
    (small : b.length ≤ 65535) :
    readStored out
        ⟨skipped, octets16 b.length ++ (octets16 (65535 - b.length) ++ (b ++ rest))⟩ =
      .ok (out ++ b.toArray, ⟨[], rest⟩) := by
  have head : BitInput.octets 4
      ⟨[], octets16 b.length ++ (octets16 (65535 - b.length) ++ (b ++ rest))⟩ =
        .ok (octets16 b.length ++ octets16 (65535 - b.length), ⟨[], b ++ rest⟩) :=
    octets_append (octets16 b.length ++ octets16 (65535 - b.length)) (b ++ rest)
  have lengths : b.length + (65535 - b.length) = 65535 := by omega
  simp only [readStored, BitInput.align, head, bind, Except.bind]
  simp [octets16, word16_octets16 small, word16_octets16 (Nat.sub_le 65535 b.length), lengths,
    octets_append, pure, Except.pure]

/-- A block that is not the last is followed by the others. -/
theorem readBlocks_storedBlock (fuel : Nat) (out : Array UInt8) (last : Bool) (b rest : Bytes)
    (small : b.length ≤ 65535) :
    readBlocks (fuel + 1) out (.ofBytes (storedBlock last b ++ rest)) =
      if last then .ok (out ++ b.toArray, .ofBytes rest)
      else readBlocks fuel (out ++ b.toArray) (.ofBytes rest) := by
  have stored (skipped : List Bool) := readStored_storedBlock out skipped b rest small
  cases last
  · simp [readBlocks, storedBlock, BitInput.ofBytes, BitInput.bit, BitInput.bits, BitInput.bitsOf,
      bind, Except.bind, pure, Except.pure, stored]
  · simp [readBlocks, storedBlock, BitInput.ofBytes, BitInput.bit, BitInput.bits, BitInput.bitsOf,
      bind, Except.bind, pure, Except.pure, stored]

theorem readBlocks_storedBlocks (blocks fuel : Nat) (out : Array UInt8) (b rest : Bytes)
    (enough : blocks < fuel) (small : b.length ≤ 65535 * (blocks + 1)) :
    readBlocks fuel out (.ofBytes (storedBlocks blocks b ++ rest)) =
      .ok (out ++ b.toArray, .ofBytes rest) := by
  induction blocks generalizing fuel out b with
  | zero =>
    obtain ⟨fuel, rfl⟩ := Nat.exists_eq_add_one_of_ne_zero (Nat.ne_zero_of_lt enough)
    have whole : b.take 65535 = b := List.take_of_length_le (by omega)
    rw [storedBlocks, whole, readBlocks_storedBlock fuel out true b rest (by omega)]
    rfl
  | succ blocks ih =>
    obtain ⟨fuel, rfl⟩ := Nat.exists_eq_add_one_of_ne_zero (Nat.ne_zero_of_lt enough)
    by_cases fits : b.length ≤ 65535
    · rw [storedBlocks, if_pos fits, readBlocks_storedBlock fuel out true b rest fits]
      rfl
    · have first : (b.take 65535).length ≤ 65535 := by
        rw [List.length_take]; omega
      have others : (b.drop 65535).length ≤ 65535 * (blocks + 1) := by
        rw [List.length_drop]; omega
      rw [storedBlocks, if_neg fits, List.append_assoc,
        readBlocks_storedBlock fuel out false _ _ first, if_neg Bool.false_ne_true,
        ih fuel _ _ (by omega) others]
      simp

theorem length_le_storedBlocks (blocks : Nat) (b : Bytes)
    (small : b.length ≤ 65535 * (blocks + 1)) : b.length ≤ (storedBlocks blocks b).length := by
  induction blocks generalizing b with
  | zero => simp [storedBlocks, storedBlock]; omega
  | succ blocks ih =>
    by_cases fits : b.length ≤ 65535
    · simp [storedBlocks, storedBlock, fits]; omega
    · have others := ih (b.drop 65535) (by rw [List.length_drop]; omega)
      rw [List.length_drop] at others
      simp [storedBlocks, storedBlock, fits]
      omega

/-- Inflating what was deflated gives it back, and leaves what follows it. -/
theorem inflate_deflate (b rest : Bytes) : inflate (deflate b ++ rest) = .ok (b, rest) := by
  have small : b.length ≤ 65535 * (b.length / 65535 + 1) := by omega
  have long : b.length ≤ (deflate b).length := length_le_storedBlocks _ b small
  have enough : b.length / 65535 < 8 * (deflate b ++ rest).length + 1 := by
    rw [List.length_append]; omega
  have read := readBlocks_storedBlocks _ _ #[] b rest enough small
  rw [← deflate] at read
  simp only [inflate, read, bind, Except.bind, pure, Except.pure]
  simp [BitInput.ofBytes]

theorem length_toLittleEndian (count n : Nat) : (Gzip.toLittleEndian count n).length = count := by
  induction count generalizing n with
  | zero => rfl
  | succ count ih => simp [Gzip.toLittleEndian, ih]

/-- A number is read modulo what its octets can hold. -/
theorem ofLittleEndian_toLittleEndian (count n : Nat) :
    Gzip.ofLittleEndian (Gzip.toLittleEndian count n) = n % 256 ^ count := by
  induction count generalizing n with
  | zero => simp [Gzip.toLittleEndian, Gzip.ofLittleEndian, Nat.mod_one]
  | succ count ih =>
    have low : (n % 256).toUInt8.toNat = n % 256 := by simp
    have high : Gzip.ofLittleEndian (Gzip.toLittleEndian count (n / 256)) =
        n / 256 % 256 ^ count := ih (n / 256)
    rw [Gzip.ofLittleEndian] at high ⊢
    rw [Gzip.toLittleEndian, List.foldr_cons, high, low, Nat.pow_succ, Nat.mul_comm _ 256,
      Nat.mod_mul]

theorem take_append (b rest : Bytes) : Gzip.take b.length (b ++ rest) = .ok (b, rest) := by
  simp [Gzip.take]

theorem readHeader_header (rest : Bytes) : Gzip.readHeader (Gzip.header ++ rest) = .ok rest := by
  have start : Gzip.take 10 (Gzip.header ++ rest) = .ok (Gzip.header, rest) :=
    take_append Gzip.header rest
  simp only [Gzip.readHeader, start, bind, Except.bind]
  simp [Gzip.header, Gzip.hasFlag, pure, Except.pure]

/-- A member is read as what it holds, and what follows it is left. -/
theorem readMember_gzip (b rest : Bytes) : Gzip.readMember (gzip b ++ rest) = .ok (b, rest) := by
  have four (n : Nat) (rest : Bytes) :
      Gzip.take 4 (Gzip.toLittleEndian 4 n ++ rest) = .ok (Gzip.toLittleEndian 4 n, rest) := by
    simpa [length_toLittleEndian] using take_append (Gzip.toLittleEndian 4 n) rest
  have sum : (crc32 b).toNat % 256 ^ 4 = (crc32 b).toNat :=
    Nat.mod_eq_of_lt (crc32 b).toNat_lt
  simp only [gzip, List.append_assoc, Gzip.readMember, readHeader_header, inflate_deflate, four,
    ofLittleEndian_toLittleEndian, sum, bind, Except.bind, pure, Except.pure]
  simp

theorem gunzip_gzip (b : Bytes) : gunzip (gzip b) = .ok b := by
  have read := readMember_gzip b []
  rw [List.append_nil] at read
  rw [gunzip, read]
  rfl

/-- A member is longer than what it holds. -/
theorem length_lt_gzip (b : Bytes) : b.length < (gzip b).length := by
  have blocks : b.length ≤ (deflate b).length := length_le_storedBlocks _ b (by omega)
  simp [gzip, Gzip.header, length_toLittleEndian]
  omega

/-- A body is decoded from what it was encoded to. -/
theorem decodeBody_encodeBody (compressed : Bool) (b : Bytes) :
    decodeBody compressed (encodeBody compressed b) = .ok b := by
  cases compressed
  · rfl
  · simp [decodeBody, encodeBody, gunzip_gzip]

end JobGate
