import JobGate.Gzip.Inflate
import JobGate.Proofs.Results

/-!
A deflated stream is read to its end and no further. Each reader of bits takes the same from its
input when more octets follow, and leaves these (`BitInput.Local`). Two of them bound their steps by
the length of the input, so that more octets allow them more steps; those that they need without are
enough (`extends_readSymbols`, `extends_readBlocks`). Inflating is therefore local as well
(`inflate_append`).
-/
namespace JobGate

variable {α β : Type}

namespace BitInput

/-- The input with more octets behind it. -/
def append (input : BitInput) (more : Bytes) : BitInput := { input with rest := input.rest ++ more }

/-- What the first reader takes from an input, the second takes from it when more follows, and it
    leaves what follows. -/
def Extends (short long : BitInput → Inflated (α × BitInput)) : Prop :=
  ∀ ⦃input after : BitInput⦄ ⦃a : α⦄, short input = .ok (a, after) →
    ∀ more, long (input.append more) = .ok (a, after.append more)

/-- The reader does not look beyond what it takes. -/
abbrev Local (read : BitInput → Inflated (α × BitInput)) : Prop := Extends read read

theorem local_pure (a : α) : Local fun input => .ok (a, input) := by
  intro input after b read more
  obtain ⟨rfl, rfl⟩ := Prod.mk.inj (Except.ok.inj read)
  rfl

theorem local_error (e : InflateError) : Local fun _ => (.error e : Inflated (α × BitInput)) := by
  intro input after a read
  cases read

theorem Local.bind {first : BitInput → Inflated (α × BitInput)}
    {next : α → BitInput → Inflated (β × BitInput)} (one : Local first)
    (two : ∀ a, Local (next a)) : Local fun input => first input >>= fun p => next p.1 p.2 := by
  intro input after b read more
  obtain ⟨⟨a, between⟩, taken, read⟩ := bind_ok read
  simp only [one taken more]
  exact two a read more

theorem Local.unless {c : Prop} [Decidable c] {e : InflateError}
    {read : BitInput → Inflated (α × BitInput)} (within : Local read) :
    Local fun input => if c then .error e else read input := by
  by_cases given : c
  · simpa only [if_pos given] using local_error e
  · simpa only [if_neg given] using within

theorem local_bit : Local bit := by
  intro input after b read more
  obtain ⟨_ | ⟨first, others⟩, _ | ⟨o, rest⟩⟩ := input
  · cases read
  all_goals cases read; rfl

theorem local_bits (n : Nat) : Local (bits n) := by
  induction n with
  | zero => exact local_pure 0
  | succ n ih => exact local_bit.bind fun b => ih.bind fun v => local_pure (b.toNat + 2 * v)

theorem octets_ok {n : Nat} {input after : BitInput} {b : Bytes}
    (read : octets n input = .ok (b, after)) :
    ∃ rest, input.rest = b ++ rest ∧ b.length = n ∧ after = ⟨[], rest⟩ := by
  rw [octets] at read
  split at read
  · cases read
  · rename_i whole
    obtain ⟨rfl, rfl⟩ := Prod.mk.inj (Except.ok.inj read)
    refine ⟨_, (List.take_append_drop n _).symm, ?_, rfl⟩
    rw [List.length_take] at whole ⊢
    omega

theorem local_octets (n : Nat) : Local (octets n) := by
  intro input after b read more
  obtain ⟨rest, parts, rfl, rfl⟩ := octets_ok read
  simp [octets, append, parts]

end BitInput

open BitInput

namespace PrefixCode

theorem local_decodeFrom (symbols : Array Nat) (counts : List Nat) (word first index : Nat) :
    Local (decodeFrom symbols counts word first index) := by
  induction counts generalizing word first index with
  | nil => exact local_error .corrupt
  | cons count counts ih =>
    intro input after symbol read more
    rw [decodeFrom] at read ⊢
    obtain ⟨⟨b, between⟩, taken, read⟩ := bind_ok read
    simp only [local_bit taken more, bind, Except.bind]
    by_cases below : 2 * word + b.toNat < first + count
    · simp only [if_pos below] at read ⊢
      rcases found : symbols[index + (2 * word + b.toNat - first)]? with _ | given
      · simp only [found] at read
        cases read
      · simp only [found] at read ⊢
        exact local_pure given read more
    · simp only [if_neg below] at read ⊢
      exact ih _ _ _ read more

theorem local_decode (code : PrefixCode) : Local code.decode :=
  local_decodeFrom code.symbols code.counts 0 0 0

end PrefixCode

theorem local_readShortLengths (n : Nat) : Local (readShortLengths n) := by
  induction n with
  | zero => exact local_pure []
  | succ n ih => exact (local_bits 3).bind fun l => ih.bind fun ls => local_pure (l :: ls)

theorem local_readLengths (code : PrefixCode) (total fuel : Nat) (acc : List Nat) :
    Local (readLengths code total fuel acc) := by
  induction fuel generalizing acc with
  | zero => exact local_pure acc.reverse
  | succ fuel ih =>
    intro input after lengths read more
    rw [readLengths] at read ⊢
    by_cases done : acc.length == total
    · rw [if_pos done] at read ⊢
      exact local_pure acc.reverse read more
    · rw [if_neg done] at read ⊢
      obtain ⟨⟨symbol, between⟩, taken, read⟩ := bind_ok read
      simp only [code.local_decode taken more, bind, Except.bind]
      by_cases plain : symbol < 16
      · simp only [if_pos plain] at read ⊢
        exact ih _ read more
      · simp only [if_neg plain] at read ⊢
        -- the symbols differ in what they repeat, and in how many bits say how often
        have counted (length repeats : Nat) : Local fun input =>
            if total < (List.replicate repeats length ++ acc).length then .error .corrupt
            else readLengths code total fuel (List.replicate repeats length ++ acc) input :=
          (ih _).unless
        have repeated (length base extra : Nat) :=
          (local_bits extra).bind fun v => counted length (base + v)
        split at read
        · cases read
        all_goals exact repeated _ _ _ read more

theorem local_readCodes : Local readCodes := by
  intro input after codes read more
  rw [readCodes] at read
  obtain ⟨⟨literals, one⟩, takenLiterals, read⟩ := bind_ok read
  obtain ⟨⟨distances, two⟩, takenDistances, read⟩ := bind_ok read
  obtain ⟨⟨given, three⟩, takenGiven, read⟩ := bind_ok read
  obtain ⟨few, read⟩ := unless_ok read
  obtain ⟨⟨shortLengths, four⟩, takenShort, read⟩ := bind_ok read
  obtain ⟨complete, read⟩ := unless_ok read
  obtain ⟨⟨lengths, five⟩, takenLengths, read⟩ := bind_ok read
  obtain ⟨usable, read⟩ := unless_ok read
  simp only [readCodes, local_bits 5 takenLiterals more, local_bits 5 takenDistances more,
    local_bits 4 takenGiven more, local_readShortLengths _ takenShort more,
    local_readLengths _ _ _ _ takenLengths more, few, complete, usable, bind, Except.bind]
  exact local_pure _ read more

theorem local_readExtra (symbols : Array (Nat × Nat)) (symbol : Nat) :
    Local (readExtra symbols symbol) := by
  intro input after value read more
  rw [readExtra] at read ⊢
  rcases found : symbols[symbol]? with _ | ⟨base, extra⟩
  · simp only [found] at read
    cases read
  · simp only [found] at read ⊢
    exact ((local_bits extra).bind fun v => local_pure (base + v)) read more

theorem extends_readSymbols (literals distances : PrefixCode) {fuel enough : Nat}
    (le : fuel ≤ enough) (out : Array UInt8) :
    Extends (readSymbols literals distances fuel out)
      (readSymbols literals distances enough out) := by
  induction fuel generalizing enough out with
  | zero =>
    intro input after written read
    cases read
  | succ fuel ih =>
    obtain ⟨enough, rfl⟩ := Nat.exists_eq_add_one_of_ne_zero (Nat.ne_zero_of_lt le)
    have le : fuel ≤ enough := Nat.le_of_succ_le_succ le
    intro input after written read more
    rw [readSymbols] at read ⊢
    obtain ⟨⟨symbol, one⟩, taken, read⟩ := bind_ok read
    simp only [literals.local_decode taken more, bind, Except.bind]
    by_cases literal : symbol < 256
    · simp only [if_pos literal] at read ⊢
      exact ih le _ read more
    · by_cases last : symbol == 256
      · simp only [if_neg literal, if_pos last] at read ⊢
        exact local_pure out read more
      · simp only [if_neg literal, if_neg last] at read ⊢
        obtain ⟨⟨length, two⟩, takenLength, read⟩ := bind_ok read
        obtain ⟨⟨code, three⟩, takenCode, read⟩ := bind_ok read
        obtain ⟨⟨distance, four⟩, takenDistance, read⟩ := bind_ok read
        simp only [local_readExtra _ _ takenLength more, distances.local_decode takenCode more,
          local_readExtra _ _ takenDistance more]
        exact ih le _ read more

theorem local_readStored (out : Array UInt8) : Local (readStored out) := by
  intro input after written read more
  rw [readStored] at read
  obtain ⟨⟨head, one⟩, takenHead, read⟩ := bind_ok read
  have aligned : (input.append more).align = input.align.append more := rfl
  simp only [readStored, aligned, local_octets 4 takenHead more, bind, Except.bind]
  dsimp only at read
  split at read
  · obtain ⟨fits, read⟩ := unless_ok read
    obtain ⟨⟨stored, two⟩, taken, read⟩ := bind_ok read
    simp only [fits, local_octets _ taken more]
    exact local_pure _ read more
  · cases read

theorem extends_readBlocks {fuel enough : Nat} (le : fuel ≤ enough) (out : Array UInt8) :
    Extends (readBlocks fuel out) (readBlocks enough out) := by
  induction fuel generalizing enough out with
  | zero =>
    intro input after written read
    cases read
  | succ fuel ih =>
    obtain ⟨enough, rfl⟩ := Nat.exists_eq_add_one_of_ne_zero (Nat.ne_zero_of_lt le)
    have le : fuel ≤ enough := Nat.le_of_succ_le_succ le
    intro input after written read more
    rw [readBlocks] at read ⊢
    obtain ⟨⟨last, one⟩, takenLast, read⟩ := bind_ok read
    obtain ⟨⟨kind, two⟩, takenKind, read⟩ := bind_ok read
    simp only [local_bit takenLast more, local_bits 2 takenKind more, bind, Except.bind]
    have others (out : Array UInt8) :
        Extends (fun input => if last then .ok (out, input) else readBlocks fuel out input)
          (fun input => if last then .ok (out, input) else readBlocks enough out input) := by
      cases last
      · exact ih le out
      · exact local_pure out
    have longer : 8 * two.rest.length + 9 ≤ 8 * (two.append more).rest.length + 9 := by
      rw [append, List.length_append]
      omega
    match kind with
    | 0 =>
      obtain ⟨⟨block, three⟩, taken, read⟩ := bind_ok read
      simp only [local_readStored out taken more]
      exact others block read more
    | 1 =>
      obtain ⟨⟨block, three⟩, taken, read⟩ := bind_ok read
      simp only [extends_readSymbols _ _ longer out taken more]
      exact others block read more
    | 2 =>
      obtain ⟨⟨codes, three⟩, takenCodes, read⟩ := bind_ok read
      obtain ⟨⟨block, four⟩, taken, read⟩ := bind_ok read
      simp only [local_readCodes takenCodes more, extends_readSymbols _ _ longer out taken more]
      exact others block read more
    | _ + 3 => cases read

/-- What follows a stream changes nothing of what it inflates to, and is left. -/
theorem inflate_append {b plain rest : Bytes} (read : inflate b = .ok (plain, rest))
    (more : Bytes) : inflate (b ++ more) = .ok (plain, rest ++ more) := by
  rw [inflate] at read
  obtain ⟨⟨written, input⟩, taken, read⟩ := bind_ok read
  obtain ⟨rfl, rfl⟩ := Prod.mk.inj (Except.ok.inj read)
  have longer : 8 * b.length + 1 ≤ 8 * (b ++ more).length + 1 := by
    rw [List.length_append]
    omega
  have whole : ofBytes (b ++ more) = (ofBytes b).append more := rfl
  simp only [inflate, whole, extends_readBlocks longer #[] taken more, bind, Except.bind]
  rfl

end JobGate
