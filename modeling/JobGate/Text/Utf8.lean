import JobGate.Bytes

/-!
# UTF-8

Characters as octets and back. `decode?` accepts exactly the well-formed sequences: no overlong
form, no surrogate, nothing above U+10FFFF. `decodeLossy` reads any octets and puts U+FFFD where
the longest prefix of a well-formed sequence breaks off.
-/
namespace JobGate.Utf8

def encodeChar (c : Char) : Bytes :=
  let n := c.toNat
  if n < 0x80 then [n.toUInt8]
  else if n < 0x800 then [(0xC0 + n / 0x40).toUInt8, (0x80 + n % 0x40).toUInt8]
  else if n < 0x10000 then
    [(0xE0 + n / 0x1000).toUInt8, (0x80 + n / 0x40 % 0x40).toUInt8, (0x80 + n % 0x40).toUInt8]
  else
    [(0xF0 + n / 0x40000).toUInt8, (0x80 + n / 0x1000 % 0x40).toUInt8,
      (0x80 + n / 0x40 % 0x40).toUInt8, (0x80 + n % 0x40).toUInt8]

def encode (s : String) : Bytes := s.toList.flatMap encodeChar

/-- The least and the greatest second octet that may follow a leading octet, and how many octets
follow it; none for an octet that starts no character of several octets. -/
def follow (lead : UInt8) : Option (UInt8 × UInt8 × Nat) :=
  if 0xC2 ≤ lead && lead ≤ 0xDF then some (0x80, 0xBF, 1)
  else if lead == 0xE0 then some (0xA0, 0xBF, 2)
  else if lead == 0xED then some (0x80, 0x9F, 2)
  else if 0xE1 ≤ lead && lead ≤ 0xEF then some (0x80, 0xBF, 2)
  else if lead == 0xF0 then some (0x90, 0xBF, 3)
  else if 0xF1 ≤ lead && lead ≤ 0xF3 then some (0x80, 0xBF, 3)
  else if lead == 0xF4 then some (0x80, 0x8F, 3)
  else none

/-- An octet that continues a character. -/
def isTail (o : UInt8) : Bool := 0x80 ≤ o && o ≤ 0xBF

/-- The six bits that a continuing octet carries. -/
def tailBits (o : UInt8) : Nat := o.toNat % 0x40

/-- What stands at the front of a sequence of octets. -/
inductive Front where
  /-- Nothing is left. -/
  | done
  /-- A character, and what follows it. -/
  | char (c : Char) (rest : Bytes)
  /-- A sequence that is no character; `rest` follows its longest part that could have begun one. -/
  | bad (rest : Bytes)

/-- Reads the character at the front. -/
def front : Bytes → Front
  | [] => .done
  | a :: rest =>
    if a < 0x80 then .char (Char.ofNat a.toNat) rest
    else match follow a with
      | none => .bad rest
      | some (low, high, n) =>
        match rest with
        | [] => .bad []
        | b :: rest₁ =>
          if !(low ≤ b && b ≤ high) then .bad (b :: rest₁)
          else if n == 1 then
            .char (Char.ofNat ((a.toNat - 0xC0) * 0x40 + tailBits b)) rest₁
          else match rest₁ with
            | [] => .bad []
            | c :: rest₂ =>
              if !isTail c then .bad (c :: rest₂)
              else if n == 2 then
                let code := ((a.toNat - 0xE0) * 0x40 + tailBits b) * 0x40 + tailBits c
                .char (Char.ofNat code) rest₂
              else match rest₂ with
                | [] => .bad []
                | d :: rest₃ =>
                  if !isTail d then .bad (d :: rest₃)
                  else .char (Char.ofNat ((((a.toNat - 0xF0) * 0x40 + tailBits b) * 0x40
                    + tailBits c) * 0x40 + tailBits d)) rest₃

/-- Reads up to `fuel` characters onto the reversed list `acc`; `none` where a sequence is no
character and `mend` is off, U+FFFD in its place where `mend` is on. -/
def decodeFrom (mend : Bool) : Nat → List Char → Bytes → Option (List Char)
  | 0, acc, _ => some acc.reverse
  | fuel + 1, acc, b =>
    match front b with
    | .done => some acc.reverse
    | .char c rest => decodeFrom mend fuel (c :: acc) rest
    | .bad rest => if mend then decodeFrom mend fuel (Char.ofNat 0xFFFD :: acc) rest else none

/-- The text that the octets spell, if they are well formed. Each character takes at least one
octet, so their number bounds the characters. -/
def decode? (b : Bytes) : Option String :=
  (decodeFrom false (b.length + 1) [] b).map String.ofList

/-- The text that the octets spell, with U+FFFD for each sequence that is no character. -/
def decodeLossy (b : Bytes) : String :=
  String.ofList ((decodeFrom true (b.length + 1) [] b).getD [])

end JobGate.Utf8
