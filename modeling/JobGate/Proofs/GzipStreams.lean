import JobGate.Proofs.GzipMembers
import JobGate.Proofs.InflateLocality
import Mathlib.Data.List.Forall2

/-!
Bodies of several members. A member is read the same whatever follows it, whoever wrote it
(`readMember_append`). So a body decodes to what its first member holds, and all that follows this
member is passed over without an error: what members hold together is what their body decodes to
just if all members but the first are empty (`first_member_decoded`, `second_member_lost`).
-/
namespace JobGate

namespace Gzip

/-- What follows a field that stands only if it is announced. -/
def skipIf (announced : Bool) (skip : Bytes → Except GzipError Bytes) (b : Bytes) :
    Except GzipError Bytes :=
  if announced then skip b else .ok b

/-- What follows the field that begins with its length. -/
def skipExtra (b : Bytes) : Except GzipError Bytes := do
  let (length, rest) ← take 2 b
  let (_, rest) ← take (ofLittleEndian length) rest
  return rest

/-- What follows the checksum of a header, which is that of all octets in front of it. -/
def skipSum (whole b : Bytes) : Except GzipError Bytes := do
  let (sum, rest) ← take 2 b
  if ofLittleEndian sum != (crc32 (whole.take (whole.length - b.length))).toNat % 65536 then
    throw .mismatch
  return rest

/-- What follows the fields of a header that its flags announce. -/
def skipFields (flags : UInt8) (whole b : Bytes) : Except GzipError Bytes := do
  let b ← skipIf (hasFlag flags 2) skipExtra b
  let b ← skipIf (hasFlag flags 3) skipText b
  let b ← skipIf (hasFlag flags 4) skipText b
  skipIf (hasFlag flags 1) (skipSum whole) b

/-- What follows a header that starts with ten octets, of which the first four say what stands in
    it. -/
def skipHeader (whole : Bytes) : Bytes → Bytes → Except GzipError Bytes
  | magic₁ :: magic₂ :: method :: flags :: _, b =>
    if magic₁ != 0x1F || magic₂ != 0x8B || method != 8 || 32 ≤ flags then .error .badHeader
    else skipFields flags whole b
  | _, _ => .error .endOfFile

theorem skipIf_bind {β : Type} (announced : Bool) (skip : Bytes → Except GzipError Bytes)
    (b : Bytes) (next : Bytes → Except GzipError β) :
    skipIf announced skip b >>= next = if announced then skip b >>= next else next b := by
  cases announced <;> rfl

theorem readHeader_eq (b : Bytes) :
    readHeader b = take 10 b >>= fun taken => skipHeader b taken.1 taken.2 := by
  rw [readHeader]
  refine congrArg _ (funext ?_)
  rintro ⟨start, rest⟩
  rcases start with _ | ⟨magic₁, _ | ⟨magic₂, _ | ⟨method, _ | ⟨flags, others⟩⟩⟩⟩
  · rfl
  · rfl
  · rfl
  · rfl
  · by_cases bad : magic₁ != 0x1F || magic₂ != 0x8B || method != 8 || 32 ≤ flags
    · simp only [skipHeader, if_pos bad]
      rfl
    · simp only [skipHeader, if_neg bad, skipFields, skipIf_bind, skipExtra, bind_assoc, pure_bind]
      rfl

variable {b x rest : Bytes}

theorem take_ok {n : Nat} (read : take n b = .ok (x, rest)) : b = x ++ rest ∧ x.length = n := by
  rw [take] at read
  split at read
  · cases read
  · rename_i whole
    obtain ⟨rfl, rfl⟩ := Prod.mk.inj (Except.ok.inj read)
    refine ⟨(List.take_append_drop n b).symm, ?_⟩
    rw [List.length_take] at whole ⊢
    omega

theorem take_of_append {n : Nat} (read : take n b = .ok (x, rest)) (more : Bytes) :
    take n (b ++ more) = .ok (x, rest ++ more) := by
  obtain ⟨rfl, rfl⟩ := take_ok read
  rw [List.append_assoc]
  exact take_append x (rest ++ more)

theorem skipText_append (read : skipText b = .ok rest) (more : Bytes) :
    skipText (b ++ more) = .ok (rest ++ more) := by
  rw [skipText] at read ⊢
  rcases stops : b.dropWhile (· != 0) with _ | ⟨mark, after⟩
  · simp only [stops] at read
    split at read <;> cases read
  · simp only [stops] at read
    by_cases long : 65535 + 1 + after.length < b.length
    · simp only [if_pos long] at read
      cases read
    · simp only [if_neg long] at read
      obtain rfl := Except.ok.inj read
      have short : ¬ 65535 + 1 + (after ++ more).length < (b ++ more).length := by
        rw [List.length_append, List.length_append]
        omega
      simp only [List.dropWhile_append, stops, List.isEmpty_cons, Bool.false_eq_true, if_false,
        List.cons_append, if_neg short]

theorem skipExtra_append (read : skipExtra b = .ok rest) (more : Bytes) :
    skipExtra (b ++ more) = .ok (rest ++ more) := by
  rw [skipExtra] at read
  obtain ⟨⟨length, between⟩, first, read⟩ := bind_ok read
  obtain ⟨⟨field, after⟩, second, read⟩ := bind_ok read
  obtain rfl : after = rest := Except.ok.inj read
  simp only [skipExtra, take_of_append first more, take_of_append second more, bind, Except.bind]
  rfl

theorem skipSum_append {whole : Bytes} (read : skipSum whole b = .ok rest) (more : Bytes) :
    skipSum (whole ++ more) (b ++ more) = .ok (rest ++ more) := by
  rw [skipSum] at read
  obtain ⟨⟨sum, after⟩, taken, read⟩ := bind_ok read
  obtain ⟨same, read⟩ := unless_ok read
  obtain rfl : after = rest := Except.ok.inj read
  have front : (whole ++ more).take ((whole ++ more).length - (b ++ more).length) =
      whole.take (whole.length - b.length) := by
    rw [List.length_append, List.length_append, Nat.add_sub_add_right,
      List.take_append_of_le_length (Nat.sub_le _ _)]
  simp only [skipSum, take_of_append taken more, front, if_neg same, bind, Except.bind]
  rfl

theorem skipIf_append {announced : Bool} {short long : Bytes → Except GzipError Bytes}
    (more : Bytes) (step : ∀ {b rest}, short b = .ok rest → long (b ++ more) = .ok (rest ++ more))
    (read : skipIf announced short b = .ok rest) :
    skipIf announced long (b ++ more) = .ok (rest ++ more) := by
  cases announced
  · exact congrArg _ (congrArg (· ++ more) (Except.ok.inj read))
  · exact step read

theorem skipFields_append {flags : UInt8} {whole : Bytes}
    (read : skipFields flags whole b = .ok rest) (more : Bytes) :
    skipFields flags (whole ++ more) (b ++ more) = .ok (rest ++ more) := by
  rw [skipFields] at read
  obtain ⟨one, extra, read⟩ := bind_ok read
  obtain ⟨two, name, read⟩ := bind_ok read
  obtain ⟨three, comment, sum⟩ := bind_ok read
  have extra := skipIf_append more (skipExtra_append · more) extra
  have name := skipIf_append more (skipText_append · more) name
  have comment := skipIf_append more (skipText_append · more) comment
  have sum := skipIf_append more (skipSum_append · more) sum
  simp only [skipFields, extra, name, comment, bind, Except.bind]
  exact sum

theorem skipHeader_append {whole start : Bytes} (read : skipHeader whole start b = .ok rest)
    (more : Bytes) : skipHeader (whole ++ more) start (b ++ more) = .ok (rest ++ more) := by
  rcases start with _ | ⟨magic₁, _ | ⟨magic₂, _ | ⟨method, _ | ⟨flags, others⟩⟩⟩⟩
  · cases read
  · cases read
  · cases read
  · cases read
  · rw [skipHeader] at read ⊢
    by_cases bad : magic₁ != 0x1F || magic₂ != 0x8B || method != 8 || 32 ≤ flags
    · rw [if_pos bad] at read
      cases read
    · rw [if_neg bad] at read ⊢
      exact skipFields_append read more

theorem readHeader_append (read : readHeader b = .ok rest) (more : Bytes) :
    readHeader (b ++ more) = .ok (rest ++ more) := by
  rw [readHeader_eq] at read ⊢
  obtain ⟨⟨start, fields⟩, taken, read⟩ := bind_ok read
  simp only [take_of_append taken more, bind, Except.bind]
  exact skipHeader_append read more

/-- A member is read the same whatever follows it, and what follows is left. -/
theorem readMember_append {plain : Bytes} (read : readMember b = .ok (plain, rest))
    (more : Bytes) : readMember (b ++ more) = .ok (plain, rest ++ more) := by
  rw [readMember] at read
  obtain ⟨stream, header, read⟩ := bind_ok read
  rcases inflated : inflate stream with e | ⟨held, trailer⟩
  · simp only [inflated] at read
    cases read
  · simp only [inflated, pure_bind] at read
    obtain ⟨⟨sum, afterSum⟩, takenSum, read⟩ := bind_ok read
    obtain ⟨⟨length, afterLength⟩, takenLength, read⟩ := bind_ok read
    obtain ⟨same, read⟩ := unless_ok read
    obtain ⟨rfl, rfl⟩ := Prod.mk.inj (Except.ok.inj read)
    simp only [readMember, readHeader_append header more, inflate_append inflated more,
      take_of_append takenSum more, take_of_append takenLength more, if_neg same, bind, Except.bind,
      pure, Except.pure]

end Gzip

/-- The octets are one member, whoever wrote it, and it holds these. -/
def HoldsPlain (member plain : Bytes) : Prop := wholeMember? member = some plain

instance (member plain : Bytes) : Decidable (HoldsPlain member plain) :=
  inferInstanceAs (Decidable (wholeMember? member = some plain))

theorem readMember_of_holdsPlain {member plain : Bytes} (holds : HoldsPlain member plain) :
    Gzip.readMember member = .ok (plain, []) := by
  rw [HoldsPlain, wholeMember?] at holds
  split at holds
  · rename_i read
    rw [read, Option.some.inj holds]
  · cases holds

theorem holdsPlain_gzip (plain : Bytes) : HoldsPlain (gzip plain) plain := by
  have read := readMember_gzip plain []
  rw [List.append_nil] at read
  rw [HoldsPlain, wholeMember?, read]

theorem decodeBody_member {member plain : Bytes} (holds : HoldsPlain member plain) (rest : Bytes) :
    decodeBody true (member ++ rest) = .ok plain := by
  have read := Gzip.readMember_append (readMember_of_holdsPlain holds) rest
  simp [decodeBody, gunzip, read, Except.map]

/-- A body of members, and of whatever else behind the first, decodes to what the first holds: this
    is all that the members hold just if the others are empty. So a body of one member is decoded in
    full, as every body that is encoded here is, and one that is not compressed stays as it is. -/
theorem first_member_decoded {first content : Bytes} {others contents : List Bytes}
    (holds : List.Forall₂ HoldsPlain (first :: others) (content :: contents)) :
    (decodeBody true (first :: others).flatten = .ok (content :: contents).flatten ↔
        ∀ lost ∈ contents, lost = []) ∧
      (∀ rest, decodeBody true (first ++ rest) = .ok content) ∧
      (∀ plain, decodeBody true (encodeBody true plain) = .ok plain) ∧
      ∀ plain, decodeBody false plain = .ok plain ∧ encodeBody false plain = plain := by
  obtain ⟨holds, _⟩ := List.forall₂_cons.mp holds
  refine ⟨?_, decodeBody_member holds, decodeBody_encodeBody true, fun plain => ⟨rfl, rfl⟩⟩
  rw [List.flatten_cons, decodeBody_member holds others.flatten, List.flatten_cons,
    Except.ok.injEq, List.self_eq_append_right, List.flatten_eq_nil_iff]

/-- A member with a name in its header and a stream of symbols that refer back. -/
def helloMember : Bytes :=
  [0x1F, 0x8B, 8, 8, 0, 0, 0, 0, 2, 0xFF, 0x6E, 0, 0xCB, 0x48, 0xCD, 0xC9, 0xC9, 0x57, 0xC8, 0x40,
    0x90, 0, 0x80, 0x88, 0xF9, 0xE5, 0x11, 0, 0, 0]

theorem named_member_and_empty_one_decoded :
    HoldsPlain helloMember (Bytes.ofAscii "hello hello hello") ∧
      decodeBody true (helloMember ++ gzip []) = .ok (Bytes.ofAscii "hello hello hello") := by
  have named : HoldsPlain helloMember (Bytes.ofAscii "hello hello hello") := by decide +kernel
  have holds : List.Forall₂ HoldsPlain [helloMember, gzip []]
      [Bytes.ofAscii "hello hello hello", []] := .cons named (.cons (holdsPlain_gzip []) .nil)
  have decoded := (first_member_decoded holds).1.mpr (by simp)
  simp only [List.flatten_cons, List.flatten_nil, List.append_nil] at decoded
  exact ⟨named, decoded⟩

/-- Of two members that are not empty the second is passed over without an error. -/
theorem second_member_lost :
    HoldsPlain (gzip (Bytes.ofAscii "one")) (Bytes.ofAscii "one") ∧
      HoldsPlain (gzip (Bytes.ofAscii "two")) (Bytes.ofAscii "two") ∧
      decodeBody true (gzip (Bytes.ofAscii "one") ++ gzip (Bytes.ofAscii "two")) =
        .ok (Bytes.ofAscii "one") ∧
      decodeBody true (gzip (Bytes.ofAscii "one") ++ gzip (Bytes.ofAscii "two")) ≠
        .ok (Bytes.ofAscii "one" ++ Bytes.ofAscii "two") := by
  have one := holdsPlain_gzip (Bytes.ofAscii "one")
  have decoded := decodeBody_member one (gzip (Bytes.ofAscii "two"))
  refine ⟨one, holdsPlain_gzip _, decoded, ?_⟩
  rw [decoded]
  decide

end JobGate
