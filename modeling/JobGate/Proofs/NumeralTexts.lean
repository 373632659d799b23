import JobGate.Json.Reader
import JobGate.Json.Writer
import JobGate.Proofs.Results
import JobGate.Proofs.ShortestDigits
import JobGate.Proofs.Utf8Texts

/-!
Texts of numbers. A numeral without padding is read as it is written, whatever follows where it ends
(`Numeral.readValue_octets`). Every number is written as such a numeral (`Number.spelt`), so its
text is always read as a number (`Number.readValue_writeNumber`), though not always as the same one:
a whole number is read back if it fits 64 bits (`Number.reread_whole_iff`), a double if the two
roundings of a reader lead back to it.
-/
namespace JobGate
open Reader

def digitOctet (d : Nat) : UInt8 := (0x30 + d).toUInt8

/-- Decimal digits, at least one. -/
structure Decimals (ds : List Nat) : Prop where
  some : ds ≠ []
  digits : ∀ d ∈ ds, d < 10

/-- Octets that do not begin with a digit. -/
def NoDigit (rest : Bytes) : Prop := ∀ o ∈ rest.head?, Bytes.isDigit o = false

theorem toNat_digitOctet {d : Nat} (digit : d < 10) : (digitOctet d).toNat = 0x30 + d := by
  simp [digitOctet]
  omega

theorem isDigit_digitOctet {d : Nat} (digit : d < 10) : Bytes.isDigit (digitOctet d) = true := by
  simp [Bytes.isDigit, UInt8.le_iff_toNat_le, toNat_digitOctet digit]
  omega

theorem readDigits_append {ds : List Nat} (digits : ∀ d ∈ ds, d < 10) {rest : Bytes}
    (ends : NoDigit rest) : readDigits (ds.map digitOctet ++ rest) = (ds, rest) := by
  induction ds with
  | nil =>
    cases rest with
    | nil => rfl
    | cons o rest => simp [readDigits, ends o rfl]
  | cons d ds ih =>
    obtain ⟨digit, digits⟩ := List.forall_mem_cons.mp digits
    obtain ⟨read, left⟩ := Prod.mk.inj (ih digits)
    simp [readDigits, isDigit_digitOctet digit, toNat_digitOctet digit, read, left]

/-! ## Numerals -/

namespace Numeral

/-- What a document allows: no zero before other digits, and digits wherever they are wanted. -/
structure Proper (n : Numeral) : Prop where
  whole : Decimals n.whole
  unpadded : ∀ d rest, n.whole ≠ 0 :: d :: rest
  fraction : ∀ ds, n.fraction = some ds → Decimals ds
  exponent : ∀ down ds, n.exponent = some (down, ds) → Decimals ds

/-- The octets of a fraction. -/
def fractionOctets : Option (List Nat) → Bytes
  | none => []
  | some ds => 0x2E :: ds.map digitOctet

/-- The octets of an exponent, which always has a sign. -/
def exponentOctets : Option (Bool × List Nat) → Bytes
  | none => []
  | some (down, ds) => 0x65 :: (if down then 0x2D else 0x2B) :: ds.map digitOctet

/-- The octets after the sign. -/
def unsigned (n : Numeral) : Bytes :=
  n.whole.map digitOctet ++ fractionOctets n.fraction ++ exponentOctets n.exponent

def octets (n : Numeral) : Bytes := (if n.negative then [0x2D] else []) ++ n.unsigned

/-- Octets at which every numeral ends. -/
def Ends (rest : Bytes) : Prop := ∀ o ∈ rest.head?, o = 0x2C ∨ o = 0x5D ∨ o = 0x7D

theorem Ends.noDigit {rest : Bytes} (ends : Ends rest) : NoDigit rest := by
  intro o first
  rcases ends o first with rfl | rfl | rfl <;> decide

theorem noDigit_exponent (exponent : Option (Bool × List Nat)) {rest : Bytes} (ends : Ends rest) :
    NoDigit (exponentOctets exponent ++ rest) := by
  rcases exponent with _ | ⟨down, ds⟩
  · exact ends.noDigit
  · rintro _ ⟨⟩
    decide

theorem noDigit_fraction (fraction : Option (List Nat)) (exponent : Option (Bool × List Nat))
    {rest : Bytes} (ends : Ends rest) :
    NoDigit (fractionOctets fraction ++ (exponentOctets exponent ++ rest)) := by
  cases fraction with
  | none => exact noDigit_exponent exponent ends
  | some ds =>
    rintro _ ⟨⟩
    decide

theorem readWhole_append {n : Numeral} (proper : n.Proper) {rest : Bytes} (ends : NoDigit rest) :
    readWhole (n.whole.map digitOctet ++ rest) = .ok (n.whole, rest) := by
  rw [readWhole, readDigits_append proper.whole.digits ends]
  rcases whole : n.whole with _ | ⟨_ | d, _ | ⟨e, ds⟩⟩
  · exact absurd whole proper.whole.some
  · rfl
  · exact absurd whole (proper.unpadded e ds)
  · rfl
  · rfl

theorem readFraction_append {fraction : Option (List Nat)}
    (proper : ∀ ds, fraction = some ds → Decimals ds) (exponent : Option (Bool × List Nat))
    {rest : Bytes} (ends : Ends rest) :
    readFraction (fractionOctets fraction ++ (exponentOctets exponent ++ rest)) =
      .ok (fraction, exponentOctets exponent ++ rest) := by
  cases fraction with
  | some ds =>
    have decimals := proper ds rfl
    rw [fractionOctets, List.cons_append, readFraction,
      readDigits_append decimals.digits (noDigit_exponent exponent ends)]
    cases ds with
    | nil => exact absurd rfl decimals.some
    | cons d ds => rfl
  | none =>
    rcases exponent with _ | ⟨down, ds⟩
    · cases rest with
      | nil => rfl
      | cons o rest => rcases ends o rfl with rfl | rfl | rfl <;> rfl
    · rfl

theorem readExponent_append {exponent : Option (Bool × List Nat)}
    (proper : ∀ down ds, exponent = some (down, ds) → Decimals ds) {rest : Bytes}
    (ends : Ends rest) : readExponent (exponentOctets exponent ++ rest) = .ok (exponent, rest) := by
  rcases exponent with _ | ⟨down, ds⟩
  · cases rest with
    | nil => rfl
    | cons o rest => rcases ends o rfl with rfl | rfl | rfl <;> rfl
  · have decimals := proper down ds rfl
    have signed : readSign ((if down then 0x2D else 0x2B) :: (ds.map digitOctet ++ rest)) =
        (down, ds.map digitOctet ++ rest) := by
      cases down <;> rfl
    simp only [exponentOctets, List.cons_append, readExponent, signed,
      readDigits_append decimals.digits ends.noDigit]
    cases ds with
    | nil => exact absurd rfl decimals.some
    | cons d ds => rfl

/-- A proper numeral is read as it is written, whatever follows where it ends. -/
theorem readNumeral_unsigned {n : Numeral} (proper : n.Proper) {rest : Bytes} (ends : Ends rest) :
    readNumeral n.negative (n.unsigned ++ rest) = .ok (n, rest) := by
  have whole := readWhole_append proper (noDigit_fraction n.fraction n.exponent ends)
  have fraction := readFraction_append proper.fraction n.exponent ends
  have exponent := readExponent_append proper.exponent ends
  simp [readNumeral, unsigned, whole, fraction, exponent, bind, Except.bind, pure, Except.pure]

/-- A digit begins a number and nothing else. -/
theorem readValue_digit {d : Nat} (digit : d < 10) (fuel : Nat) (rest : Bytes) :
    readValue (fuel + 1) (digitOctet d :: rest) = readNumber false (digitOctet d :: rest) := by
  have other : ∀ d < 10, isSpace (digitOctet d) = false ∧ digitOctet d ≠ 0x6E ∧
      digitOctet d ≠ 0x74 ∧ digitOctet d ≠ 0x66 ∧ digitOctet d ≠ 0x2D := by decide
  obtain ⟨solid, null, yes, no, minus⟩ := other d digit
  simp [readValue, skipSpace, solid, null, yes, no, minus, isDigit_digitOctet digit]

/-- A numeral is read as the number that it denotes. -/
theorem readValue_octets {n : Numeral} (proper : n.Proper) {rest : Bytes} (ends : Ends rest)
    (fuel : Nat) : readValue (fuel + 1) (n.octets ++ rest) = (.number n.value, some rest) := by
  have read := readNumeral_unsigned proper ends
  rcases signed : n.negative with _ | _
  · rw [signed] at read
    rcases whole : n.whole with _ | ⟨d, ds⟩
    · exact absurd whole proper.whole.some
    · have digit : d < 10 := proper.whole.digits d (by simp [whole])
      have begins : n.octets ++ rest = digitOctet d :: (ds.map digitOctet ++
          (fractionOctets n.fraction ++ (exponentOctets n.exponent ++ rest))) := by
        simp [octets, unsigned, signed, whole]
      have same : n.octets = n.unsigned := by simp [octets, signed]
      rw [begins, readValue_digit digit, ← begins, same, readNumber, read]
  · rw [signed] at read
    have first : isSpace 0x2D = false := by decide
    simp [octets, signed, readValue, skipSpace, first, readNumber, read]

end Numeral

/-! ## Written numbers -/

/-- The digits that characters spell. -/
def digitsOf (cs : List Char) : List Nat := cs.map fun c => c.toNat - 0x30

/-- The characters are decimal digits, at least one. -/
structure Written (cs : List Char) : Prop where
  some : cs ≠ []
  digits : ∀ c ∈ cs, c.isDigit = true

theorem encodeChar_digit {c : Char} (digit : c.isDigit = true) :
    c.toNat - 0x30 < 10 ∧ Utf8.encodeChar c = [digitOctet (c.toNat - 0x30)] := by
  have bounds : 0x30 ≤ c.toNat ∧ c.toNat ≤ 0x39 := by
    simpa [Char.isDigit, UInt32.le_iff_toNat_le] using digit
  refine ⟨by omega, ?_⟩
  have ascii : c.toNat < 128 := by omega
  have same : 48 + (c.toNat - 48) = c.toNat := by omega
  simp [Utf8.encodeChar, digitOctet, ascii, same]

theorem octets_digits {cs : List Char} (digits : ∀ c ∈ cs, c.isDigit = true) :
    Utf8.octets cs = (digitsOf cs).map digitOctet := by
  induction cs with
  | nil => rfl
  | cons c cs ih =>
    obtain ⟨digit, digits⟩ := List.forall_mem_cons.mp digits
    simp [digitsOf, (encodeChar_digit digit).2, ih digits]

theorem Written.decimals {cs : List Char} (written : Written cs) : Decimals (digitsOf cs) where
  some := by simpa [digitsOf] using written.some
  digits d among := by
    obtain ⟨c, there, rfl⟩ := List.mem_map.mp among
    exact (encodeChar_digit (written.digits c there)).1

theorem written_toDigits (n : Nat) : Written (Nat.toDigits 10 n) where
  some := Nat.toDigits_ne_nil
  digits _ among := Nat.isDigit_of_mem_toDigits (by decide) (by decide) among

theorem head_toDigits {n : Nat} (positive : 0 < n) :
    ∃ c rest, Nat.toDigits 10 n = c :: rest ∧ c ≠ '0' := by
  induction n using Nat.strongRecOn with
  | ind n ih =>
    by_cases last : n < 10
    · rw [Nat.toDigits_of_lt_base last]
      have each : ∀ n < 10, 0 < n → n.digitChar ≠ '0' := by decide
      exact ⟨_, [], rfl, each n last positive⟩
    · obtain ⟨c, rest, front, nonzero⟩ := ih (n / 10) (by omega) (by omega)
      rw [Nat.toDigits_of_base_le (by decide) (by omega), front]
      exact ⟨c, _, rfl, nonzero⟩

/-- The characters of the parts of a numeral. -/
structure NumeralParts where
  whole : List Char
  fraction : Option (List Char) := none
  exponent : Option (Bool × List Char) := none

namespace NumeralParts

def chars (parts : NumeralParts) : List Char :=
  parts.whole ++ (parts.fraction.elim [] fun cs => '.' :: cs) ++
    parts.exponent.elim [] fun (down, cs) => 'e' :: (if down then '-' else '+') :: cs

/-- The numeral of a sign and the parts. -/
def numeral (negative : Bool) (parts : NumeralParts) : Numeral where
  negative
  whole := digitsOf parts.whole
  fraction := parts.fraction.map digitsOf
  exponent := parts.exponent.map fun (down, cs) => (down, digitsOf cs)

/-- The parts make up what a document allows. -/
structure Proper (parts : NumeralParts) : Prop where
  whole : Written parts.whole
  unpadded : ∀ c rest, parts.whole ≠ '0' :: c :: rest
  fraction : ∀ cs, parts.fraction = some cs → Written cs
  exponent : ∀ down cs, parts.exponent = some (down, cs) → Written cs

theorem eq_zero_char {c : Char} (digit : c.isDigit = true) (zero : c.toNat - 0x30 = 0) :
    c = '0' := by
  have bounds : 0x30 ≤ c.toNat ∧ c.toNat ≤ 0x39 := by
    simpa [Char.isDigit, UInt32.le_iff_toNat_le] using digit
  rw [← Char.toNat_inj]
  show c.toNat = 0x30
  omega

theorem Proper.numeral {parts : NumeralParts} (proper : parts.Proper) (negative : Bool) :
    (parts.numeral negative).Proper where
  whole := proper.whole.decimals
  unpadded d rest same := by
    obtain ⟨whole, fraction, exponent⟩ := parts
    rcases whole with _ | ⟨c, _ | ⟨next, cs⟩⟩
    · cases same
    · simp [NumeralParts.numeral, digitsOf] at same
    · obtain ⟨zero, -⟩ := List.cons.inj same
      obtain rfl := eq_zero_char (proper.whole.digits c (.head _)) zero
      exact proper.unpadded next cs rfl
  fraction ds same := by
    obtain ⟨cs, there, rfl⟩ := Option.map_eq_some_iff.mp same
    exact (proper.fraction cs there).decimals
  exponent down ds same := by
    obtain ⟨⟨sign, cs⟩, there, same⟩ := Option.map_eq_some_iff.mp same
    obtain ⟨rfl, rfl⟩ := Prod.mk.inj same
    exact (proper.exponent sign cs there).decimals

/-- The characters with their sign are written as the octets of the numeral. -/
theorem Proper.octets {parts : NumeralParts} (proper : parts.Proper) (negative : Bool) :
    Utf8.octets (if negative then '-' :: parts.chars else parts.chars) =
      (parts.numeral negative).octets := by
  obtain ⟨whole, fraction, exponent⟩ := parts
  have front : Utf8.octets whole = _ := octets_digits proper.whole.digits
  have behindPoint : Utf8.octets (fraction.elim [] fun cs => '.' :: cs) =
      Numeral.fractionOctets (fraction.map digitsOf) := by
    cases fraction with
    | none => rfl
    | some cs => exact congrArg (0x2E :: ·) (octets_digits (proper.fraction cs rfl).digits)
  have behindLetter : Utf8.octets (exponent.elim [] fun (down, cs) =>
      'e' :: (if down then '-' else '+') :: cs) =
      Numeral.exponentOctets (exponent.map fun (down, cs) => (down, digitsOf cs)) := by
    rcases exponent with _ | ⟨down, cs⟩
    · rfl
    · have digits := octets_digits (proper.exponent down cs rfl).digits
      cases down <;> exact congrArg (fun b => 0x65 :: _ :: b) digits
  have unsigned : Utf8.octets (chars ⟨whole, fraction, exponent⟩) =
      (NumeralParts.numeral negative ⟨whole, fraction, exponent⟩).unsigned := by
    rw [chars, Utf8.octets_append, Utf8.octets_append, front, behindPoint, behindLetter]
    rfl
  cases negative
  · exact unsigned
  · exact congrArg (0x2D :: ·) unsigned

theorem proper_toDigits (n : Nat) : Proper ⟨Nat.toDigits 10 n, none, none⟩ where
  whole := written_toDigits n
  unpadded c rest same := by
    rcases Nat.eq_zero_or_pos n with rfl | positive
    · rw [Nat.toDigits_zero] at same
      cases same
    · obtain ⟨first, others, front, nonzero⟩ := head_toDigits positive
      rw [front] at same
      exact nonzero (List.cons.inj same).1
  fraction := nofun
  exponent := nofun

end NumeralParts

namespace DecimalLayout

variable {first : Char} {others : List Char}

theorem positional_parts (written : Written (first :: others)) (nonzero : first ≠ '0') (p : Int) :
    ∃ parts : NumeralParts, parts.Proper ∧ positional (first :: others) p = parts.chars := by
  have zeros (n : Nat) : ∀ c ∈ List.replicate n '0', c.isDigit = true := by
    intro c among
    rw [List.eq_of_mem_replicate among]
    rfl
  simp only [positional]
  split_ifs with small short
  · refine ⟨⟨['0'], some (List.replicate (-p - 1).toNat '0' ++ first :: others), none⟩,
      ⟨⟨by simp, by simp⟩, by simp, ?_, nofun⟩, by simp [NumeralParts.chars]⟩
    rintro _ ⟨⟩
    exact ⟨by simp, fun c among => (List.mem_append.mp among).elim (zeros _ c) (written.digits c)⟩
  · refine ⟨⟨first :: others ++ List.replicate (p.toNat + 1 - (first :: others).length) '0',
      some ['0'], none⟩, ⟨⟨by simp, ?_⟩, fun c rest same => nonzero (List.cons.inj same).1, ?_,
        nofun⟩, by simp [NumeralParts.chars]⟩
    · exact fun c among => (List.mem_append.mp among).elim (written.digits c) (zeros _ c)
    · rintro _ ⟨⟩
      exact ⟨by simp, by simp⟩
  · refine ⟨⟨(first :: others).take (p.toNat + 1), some ((first :: others).drop (p.toNat + 1)),
      none⟩, ⟨⟨by simp, fun c among => written.digits c (List.mem_of_mem_take among)⟩,
        fun c rest same => nonzero (List.cons.inj same).1, ?_, nofun⟩, by simp [NumeralParts.chars]⟩
    rintro _ ⟨⟩
    refine ⟨?_, fun c among => written.digits c (List.mem_of_mem_drop among)⟩
    rw [ne_eq, List.drop_eq_nil_iff]
    exact short

theorem scientific_parts (written : Written (first :: others)) (p : Int) :
    ∃ parts : NumeralParts, parts.Proper ∧ scientific (first :: others) p = parts.chars := by
  refine ⟨⟨[first], if others.isEmpty then none else some others,
    some (decide (p < 0), Nat.toDigits 10 p.natAbs)⟩,
    ⟨⟨by simp, by simpa using written.digits first (.head _)⟩, by simp, ?_, ?_⟩, ?_⟩
  · intro ds same
    split_ifs at same with alone
    obtain rfl := Option.some.inj same
    exact ⟨by simpa using alone, fun c among => written.digits c (.tail _ among)⟩
  · rintro down ds ⟨⟩
    exact written_toDigits _
  · cases others <;> by_cases below : p < 0 <;> simp [scientific, NumeralParts.chars, below]

end DecimalLayout

theorem Binary64.write_parts (x : Binary64) :
    ∃ parts : NumeralParts, parts.Proper ∧ (DecimalLayout.document.write x).toList =
      if x.negative then '-' :: parts.chars else parts.chars := by
  rcases zero : x.isZero with _ | _
  · obtain ⟨first, others, digits, nonzero⟩ :=
      head_toDigits (Nat.pos_of_ne_zero (x.shortest_ne_zero zero))
    have written : Written (first :: others) := digits ▸ written_toDigits _
    have body (p : Int) : ∃ parts : NumeralParts, parts.Proper ∧
        (if DecimalLayout.document.isPositional p then DecimalLayout.positional (first :: others) p
          else DecimalLayout.scientific (first :: others) p) = parts.chars := by
      split_ifs
      · exact DecimalLayout.positional_parts written nonzero p
      · exact DecimalLayout.scientific_parts written p
    obtain ⟨parts, proper, same⟩ := body (x.shortest.2 + (first :: others).length - 1)
    exact ⟨parts, proper, by
      rw [DecimalLayout.write, String.toList_ofList, digits, ← same]⟩
  · have digits : x.shortest = (0, 0) := by simp [shortest, zero]
    refine ⟨⟨['0'], some ['0'], none⟩, ⟨⟨by simp, by simp⟩, by simp, ?_, by simp⟩, ?_⟩
    · rintro _ ⟨⟩
      exact ⟨by simp, by simp⟩
    · rw [DecimalLayout.write, digits, String.toList_ofList]
      rfl

namespace Number

theorem octets_whole (n : Int) : Utf8.octets (Json.writeNumber (.whole n)) =
    (NumeralParts.numeral (decide (n < 0)) ⟨Nat.toDigits 10 n.natAbs, none, none⟩).octets := by
  rw [← (NumeralParts.proper_toDigits n.natAbs).octets, Json.writeNumber, Json.writeInt]
  simp [NumeralParts.chars]

/-- Every number is written as a proper numeral. -/
theorem spelt (n : Number) :
    ∃ numeral : Numeral, numeral.Proper ∧ Utf8.octets (Json.writeNumber n) = numeral.octets := by
  cases n with
  | double x =>
    obtain ⟨parts, proper, text⟩ := x.write_parts
    exact ⟨parts.numeral x.negative, proper.numeral _, by
      rw [Json.writeNumber, text, proper.octets]⟩
  | whole n => exact ⟨_, (NumeralParts.proper_toDigits n.natAbs).numeral _, octets_whole n⟩

/-- What the text of a number is read as. -/
def reread (n : Number) : Except SyntaxError Number :=
  match Reader.readValue 1 (Utf8.octets (Json.writeNumber n)) with
  | (.number found, _) => found
  | _ => .error .invalidNumber

theorem reread_eq {n : Number} {numeral : Numeral} (proper : numeral.Proper)
    (octets : Utf8.octets (Json.writeNumber n) = numeral.octets) : n.reread = numeral.value := by
  have ends : Numeral.Ends [] := nofun
  have alone := Numeral.readValue_octets proper ends 0
  rw [List.append_nil, ← octets] at alone
  rw [reread, alone]

/-- The text of a number is read as a number, whatever follows where it ends. -/
theorem readValue_writeNumber (n : Number) {rest : Bytes} (ends : Numeral.Ends rest) (fuel : Nat) :
    Reader.readValue (fuel + 1) (Utf8.octets (Json.writeNumber n) ++ rest) =
      (.number n.reread, some rest) := by
  obtain ⟨numeral, proper, octets⟩ := n.spelt
  rw [reread_eq proper octets, octets, Numeral.readValue_octets proper ends]

theorem ofDigits_digitsOf (n : Nat) : Numeral.ofDigits (digitsOf (Nat.toDigits 10 n)) = n := by
  have spelt : Nat.ofDigitChars 10 (Nat.toDigits 10 n) 0 = n :=
    Nat.ofDigitChars_toDigits (by decide) (by decide)
  rw [Numeral.ofDigits, digitsOf, List.foldl_map]
  simpa [Nat.ofDigitChars_eq_foldl, Nat.mul_comm] using spelt

/-- A whole number is read back exactly if it fits 64 bits, with a sign or without one. -/
theorem reread_whole_iff (n : Int) :
    reread (.whole n) = .ok (.whole n) ↔ -0x8000000000000000 ≤ n ∧ n ≤ 0xFFFFFFFFFFFFFFFF := by
  rw [reread_eq ((NumeralParts.proper_toDigits n.natAbs).numeral _) (octets_whole n)]
  have magnitude (m : Except SyntaxError Binary64) (f : Binary64 → Binary64) :
      m.map (fun x => Number.double (f x)) ≠ .ok (.whole n) := by
    cases m <;> simp [Except.map]
  simp only [Numeral.value, NumeralParts.numeral, ofDigits_digitsOf, Option.map_none,
    Option.isNone_none, Bool.true_and, Numeral.maxWhole]
  rcases lt_or_ge n 0 with negative | nonneg
  · have same : -(n.natAbs : Int) = n := by omega
    by_cases fits : n.natAbs ≤ 0x8000000000000000
    · have filled : 0 < n.natAbs := by omega
      rw [decide_eq_true negative]
      simp only [if_true, filled, fits, decide_true, Bool.and_self, same, true_iff]
      omega
    · rw [decide_eq_true negative]
      simp only [if_true, fits, decide_false, Bool.and_false, Bool.false_eq_true, if_false,
        magnitude, false_iff]
      omega
  · have same : (n.natAbs : Int) = n := by omega
    rw [decide_eq_false (not_lt.mpr nonneg)]
    by_cases fits : n.natAbs ≤ 0xFFFFFFFFFFFFFFFF
    · simp only [Bool.false_eq_true, if_false, fits, decide_true, if_true, same, true_iff]
      omega
    · simp only [Bool.false_eq_true, if_false, fits, decide_false, magnitude, false_iff]
      omega

end Number

end JobGate
