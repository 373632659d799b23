import JobGate.Text.Utf8
import Mathlib.Tactic.SplitIfs

/-!
Octets of texts. A character is read back from its octets whatever follows them
(`Utf8.front_encodeChar`), so a text is what its octets spell (`Utf8.decode?_octets`). An ASCII
character has one octet, and no octet of another character is ASCII (`Utf8.encodeChar_cases`).
-/
namespace JobGate.Utf8

theorem toNat_octet {n : Nat} (small : n < 256) : n.toUInt8.toNat = n := by
  simp; omega

/-- The second octet is one that may follow the lead, which announces so many octets behind it. -/
def Follows (a b : UInt8) (count : Nat) : Prop :=
  ∃ low high, follow a = some (low, high, count) ∧ low ≤ b ∧ b ≤ high

theorem follow_eq (lead : UInt8) : follow lead =
    if 0xC2 ≤ lead.toNat ∧ lead.toNat ≤ 0xDF then some (0x80, 0xBF, 1)
    else if lead.toNat = 0xE0 then some (0xA0, 0xBF, 2)
    else if lead.toNat = 0xED then some (0x80, 0x9F, 2)
    else if 0xE1 ≤ lead.toNat ∧ lead.toNat ≤ 0xEF then some (0x80, 0xBF, 2)
    else if lead.toNat = 0xF0 then some (0x90, 0xBF, 3)
    else if 0xF1 ≤ lead.toNat ∧ lead.toNat ≤ 0xF3 then some (0x80, 0xBF, 3)
    else if lead.toNat = 0xF4 then some (0x80, 0x8F, 3)
    else none := by
  simp [follow, UInt8.le_iff_toNat_le, ← UInt8.toNat_inj]

theorem follows_one {a b : UInt8} (lead : 0xC2 ≤ a.toNat ∧ a.toNat ≤ 0xDF)
    (next : 0x80 ≤ b.toNat ∧ b.toNat ≤ 0xBF) : Follows a b 1 := by
  refine ⟨0x80, 0xBF, ?_, ?_⟩
  · rw [follow_eq, if_pos lead]
  · simpa [UInt8.le_iff_toNat_le] using next

/-- The first octet behind the lead tells the overlong forms and the surrogates apart. -/
theorem follows_two {a b : UInt8} (lead : 0xE0 ≤ a.toNat ∧ a.toNat ≤ 0xEF)
    (next : 0x80 ≤ b.toNat ∧ b.toNat ≤ 0xBF) (long : a.toNat = 0xE0 → 0xA0 ≤ b.toNat)
    (scalar : a.toNat = 0xED → b.toNat ≤ 0x9F) : Follows a b 2 := by
  rw [Follows, follow_eq]
  split_ifs <;> first | omega | skip
  · exact ⟨0xA0, 0xBF, rfl, by simp [UInt8.le_iff_toNat_le]; omega⟩
  · exact ⟨0x80, 0x9F, rfl, by simp [UInt8.le_iff_toNat_le]; omega⟩
  · exact ⟨0x80, 0xBF, rfl, by simp [UInt8.le_iff_toNat_le]; omega⟩

/-- The first octet behind the lead tells the overlong forms and what is above U+10FFFF apart. -/
theorem follows_three {a b : UInt8} (lead : 0xF0 ≤ a.toNat ∧ a.toNat ≤ 0xF4)
    (next : 0x80 ≤ b.toNat ∧ b.toNat ≤ 0xBF) (long : a.toNat = 0xF0 → 0x90 ≤ b.toNat)
    (scalar : a.toNat = 0xF4 → b.toNat ≤ 0x8F) : Follows a b 3 := by
  rw [Follows, follow_eq]
  split_ifs <;> first | omega | skip
  · exact ⟨0x90, 0xBF, rfl, by simp [UInt8.le_iff_toNat_le]; omega⟩
  · exact ⟨0x80, 0xBF, rfl, by simp [UInt8.le_iff_toNat_le]; omega⟩
  · exact ⟨0x80, 0x8F, rfl, by simp [UInt8.le_iff_toNat_le]; omega⟩

theorem isTail_iff {o : UInt8} : isTail o = true ↔ 0x80 ≤ o.toNat ∧ o.toNat ≤ 0xBF := by
  simp [isTail, UInt8.le_iff_toNat_le]

theorem Follows.large {a b : UInt8} {count : Nat} (follows : Follows a b count) : ¬ a < 0x80 := by
  obtain ⟨low, high, announced, -⟩ := follows
  intro small
  have small : a.toNat < 0x80 := small
  rw [follow_eq] at announced
  split_ifs at announced <;> omega

theorem front_one {a b : UInt8} (follows : Follows a b 1) (rest : Bytes) :
    front (a :: b :: rest) =
      .char (Char.ofNat ((a.toNat - 0xC0) * 0x40 + tailBits b)) rest := by
  have large := follows.large
  obtain ⟨low, high, announced, above, below⟩ := follows
  simp [front, large, announced, above, below]

theorem front_two {a b c : UInt8} (follows : Follows a b 2) (tail : isTail c = true)
    (rest : Bytes) : front (a :: b :: c :: rest) =
      .char (Char.ofNat (((a.toNat - 0xE0) * 0x40 + tailBits b) * 0x40 + tailBits c)) rest := by
  have large := follows.large
  obtain ⟨low, high, announced, above, below⟩ := follows
  simp [front, large, announced, above, below, tail]

theorem front_three {a b c d : UInt8} (follows : Follows a b 3) (tail : isTail c = true)
    (tail' : isTail d = true) (rest : Bytes) :
    front (a :: b :: c :: d :: rest) =
      .char (Char.ofNat ((((a.toNat - 0xF0) * 0x40 + tailBits b) * 0x40 + tailBits c) * 0x40
        + tailBits d)) rest := by
  have large := follows.large
  obtain ⟨low, high, announced, above, below⟩ := follows
  simp [front, large, announced, above, below, tail, tail']

/-- A character is read back from its octets. -/
theorem front_encodeChar (c : Char) (rest : Bytes) :
    front (encodeChar c ++ rest) = .char c rest := by
  have valid : c.toNat < 0xD800 ∨ 0xDFFF < c.toNat ∧ c.toNat < 0x110000 := c.valid
  have same : Char.ofNat c.toNat = c := Char.ofNat_toNat c
  simp only [encodeChar]
  generalize c.toNat = n at valid same
  split_ifs with ascii short middle
  · have octet := toNat_octet (n := n) (by omega)
    have small : n.toUInt8 < 0x80 := by
      rw [UInt8.lt_iff_toNat_lt, octet]
      exact ascii
    simp [front, small, octet, same]
  · have a := toNat_octet (n := 0xC0 + n / 0x40) (by omega)
    have b := toNat_octet (n := 0x80 + n % 0x40) (by omega)
    have whole : (0xC0 + n / 0x40 - 0xC0) * 0x40 + (0x80 + n % 0x40) % 0x40 = n := by omega
    simp only [List.cons_append, List.nil_append]
    rw [front_one (follows_one (by omega) (by omega)), tailBits, a, b, whole, same]
  · have a := toNat_octet (n := 0xE0 + n / 0x1000) (by omega)
    have b := toNat_octet (n := 0x80 + n / 0x40 % 0x40) (by omega)
    have c := toNat_octet (n := 0x80 + n % 0x40) (by omega)
    have whole : ((0xE0 + n / 0x1000 - 0xE0) * 0x40 + (0x80 + n / 0x40 % 0x40) % 0x40) * 0x40
        + (0x80 + n % 0x40) % 0x40 = n := by omega
    simp only [List.cons_append, List.nil_append]
    rw [front_two (follows_two (by omega) (by omega) (by omega) (by omega))
      (isTail_iff.mpr (by omega)), tailBits, tailBits, a, b, c, whole, same]
  · have a := toNat_octet (n := 0xF0 + n / 0x40000) (by omega)
    have b := toNat_octet (n := 0x80 + n / 0x1000 % 0x40) (by omega)
    have c := toNat_octet (n := 0x80 + n / 0x40 % 0x40) (by omega)
    have d := toNat_octet (n := 0x80 + n % 0x40) (by omega)
    have whole : (((0xF0 + n / 0x40000 - 0xF0) * 0x40 + (0x80 + n / 0x1000 % 0x40) % 0x40) * 0x40
        + (0x80 + n / 0x40 % 0x40) % 0x40) * 0x40 + (0x80 + n % 0x40) % 0x40 = n := by omega
    simp only [List.cons_append, List.nil_append]
    rw [front_three (follows_three (by omega) (by omega) (by omega) (by omega))
      (isTail_iff.mpr (by omega)) (isTail_iff.mpr (by omega)), tailBits, tailBits, tailBits, a, b,
      c, d, whole, same]

/-- The octets of a character are one ASCII octet, or none of them is ASCII. -/
theorem encodeChar_cases (c : Char) :
    (c.toNat < 0x80 ∧ encodeChar c = [c.toNat.toUInt8]) ∨
      0x80 ≤ c.toNat ∧ encodeChar c ≠ [] ∧ ∀ o ∈ encodeChar c, 0x80 ≤ o.toNat := by
  have valid : c.toNat < 0xD800 ∨ 0xDFFF < c.toNat ∧ c.toNat < 0x110000 := c.valid
  simp only [encodeChar]
  split_ifs with ascii short middle
  · exact .inl ⟨ascii, rfl⟩
  · refine .inr ⟨by omega, by simp, ?_⟩
    simp; omega
  · refine .inr ⟨by omega, by simp, ?_⟩
    simp; omega
  · refine .inr ⟨by omega, by simp, ?_⟩
    simp; omega

theorem encodeChar_ne_nil (c : Char) : encodeChar c ≠ [] := by
  rcases encodeChar_cases c with ⟨-, octets⟩ | ⟨-, filled, -⟩
  · simp [octets]
  · exact filled

def octets (cs : List Char) : Bytes := cs.flatMap encodeChar

@[simp] theorem octets_nil : octets [] = [] := rfl

@[simp] theorem octets_cons (c : Char) (cs : List Char) :
    octets (c :: cs) = encodeChar c ++ octets cs := rfl

@[simp] theorem octets_append (front rest : List Char) :
    octets (front ++ rest) = octets front ++ octets rest := List.flatMap_append

theorem length_le_octets (cs : List Char) : cs.length ≤ (octets cs).length := by
  induction cs with
  | nil => exact Nat.zero_le _
  | cons c cs ih =>
    have filled := List.length_pos_iff.mpr (encodeChar_ne_nil c)
    simp only [octets_cons, List.length_append, List.length_cons]
    omega

theorem decodeFrom_octets (mend : Bool) (cs acc : List Char) (fuel : Nat)
    (enough : cs.length < fuel) :
    decodeFrom mend fuel acc (octets cs) = some (acc.reverse ++ cs) := by
  induction cs generalizing acc fuel with
  | nil =>
    obtain ⟨fuel, rfl⟩ := Nat.exists_eq_add_of_lt enough
    simp [decodeFrom, front]
  | cons c cs ih =>
    obtain ⟨fuel, rfl⟩ := Nat.exists_eq_add_of_lt enough
    have later := ih (c :: acc) (cs.length + 1 + fuel) (by omega)
    simp only [octets_cons, List.length_cons]
    simp [decodeFrom, front_encodeChar, later]

/-- A text is what its octets spell. -/
theorem decode?_octets (cs : List Char) : decode? (octets cs) = some (String.ofList cs) := by
  have enough := Nat.lt_succ_of_le (length_le_octets cs)
  rw [decode?, decodeFrom_octets false cs [] _ enough]
  rfl

end JobGate.Utf8
