import JobGate.Proofs.DocumentEquality
import JobGate.Proofs.NumeralTexts

/-!
Texts of documents. The text that is written for a document is read as the document, except that
each number is what its own text is read as (`Json.read_bytes`). So a document decodes from its text
as itself exactly if it is not nested too deeply, no object in it has a key twice, its whole numbers
fit 64 bits and its doubles are read back (`Json.decodeBytes_bytes_iff`).
-/
namespace JobGate
open Reader

/-- An octet that stands for itself in a string. -/
def Plain (o : UInt8) : Prop := o ≠ 0x22 ∧ o ≠ 0x5C ∧ 0x20 ≤ o.toNat

theorem readString_plain {octets : Bytes} (plain : ∀ o ∈ octets, Plain o) (acc rest : Bytes) :
    readString none acc (octets ++ rest) = readString none (octets.reverse ++ acc) rest := by
  induction octets generalizing acc with
  | nil => rfl
  | cons o octets ih =>
    obtain ⟨⟨quote, slash, control⟩, plain⟩ := List.forall_mem_cons.mp plain
    have printed : ¬ o < 0x20 := by
      rw [UInt8.lt_iff_toNat_lt, not_lt]
      exact control
    rw [List.cons_append, readString.eq_def]
    simp [quote, slash, printed, ih plain]

theorem plain_encodeChar {c : Char} (quote : c ≠ '"') (slash : c ≠ '\\')
    (printed : 0x20 ≤ c.toNat) : ∀ o ∈ Utf8.encodeChar c, Plain o := by
  have other (d : Char) (differs : c ≠ d) : c.toNat ≠ d.toNat := fun same =>
    differs (Char.toNat_inj.mp same)
  have quote := other _ quote
  have slash := other _ slash
  rcases Utf8.encodeChar_cases c with ⟨ascii, octets⟩ | ⟨-, -, large⟩
  · have octet := Utf8.toNat_octet (n := c.toNat) (by omega)
    rw [octets]
    intro o among
    obtain rfl := List.mem_singleton.mp among
    refine ⟨fun same => quote ?_, fun same => slash ?_, by rwa [octet]⟩
    · rw [← octet, same]
      rfl
    · rw [← octet, same]
      rfl
  · intro o among
    have := large o among
    refine ⟨?_, ?_, by omega⟩ <;> rintro rfl <;> simp at this

theorem readString_letter {e o : UInt8} (letter : e ≠ 0x75) (stands : escaped? e = some o)
    (acc rest : Bytes) :
    readString none acc (0x5C :: e :: rest) = readString none (o :: acc) rest := by
  rw [readString.eq_def]
  simp [letter, stands]

theorem readString_hex {a b c d : UInt8} {n : Nat} (spelt : hexFour? a b c d = some n)
    (scalar : n < 0xD800) (acc rest : Bytes) :
    readString none acc (0x5C :: 0x75 :: a :: b :: c :: d :: rest) =
      readString none ((Utf8.encodeChar (Char.ofNat n)).reverse ++ acc) rest := by
  have low : isLowSurrogate n = false := by simp [isLowSurrogate]; omega
  have high : isHighSurrogate n = false := by simp [isHighSurrogate]; omega
  rw [readString.eq_def]
  simp [spelt, low, high]

/-- The two digits of a control. -/
theorem hexFour?_hexChar : ∀ n < 0x20,
    Utf8.octets ['0', '0', Bytes.hexChar (n / 16), Bytes.hexChar (n % 16)] =
      [0x30, 0x30, (Bytes.hexChar (n / 16)).toNat.toUInt8, (Bytes.hexChar (n % 16)).toNat.toUInt8] ∧
    hexFour? 0x30 0x30 (Bytes.hexChar (n / 16)).toNat.toUInt8
      (Bytes.hexChar (n % 16)).toNat.toUInt8 = some n := by decide

/-- The escape of a character is read as its octets. -/
theorem readString_escapeChar (c : Char) (acc rest : Bytes) :
    readString none acc (Utf8.octets (Json.escapeChar c) ++ rest) =
      readString none ((Utf8.encodeChar c).reverse ++ acc) rest := by
  have same : Char.ofNat c.toNat = c := Char.ofNat_toNat c
  unfold Json.escapeChar
  split_ifs with quote slash bell feed line ret tab control
  · obtain rfl := eq_of_beq quote
    exact readString_letter (by decide) rfl acc rest
  · obtain rfl := eq_of_beq slash
    exact readString_letter (by decide) rfl acc rest
  · rw [← same, eq_of_beq bell]
    exact readString_letter (by decide) rfl acc rest
  · rw [← same, eq_of_beq feed]
    exact readString_letter (by decide) rfl acc rest
  · obtain rfl := eq_of_beq line
    exact readString_letter (by decide) rfl acc rest
  · obtain rfl := eq_of_beq ret
    exact readString_letter (by decide) rfl acc rest
  · obtain rfl := eq_of_beq tab
    exact readString_letter (by decide) rfl acc rest
  · obtain ⟨digits, spelt⟩ := hexFour?_hexChar c.toNat control
    have read := readString_hex spelt (by omega) acc rest
    rw [same] at read
    have split : Utf8.octets ['\\', 'u', '0', '0', Bytes.hexChar (c.toNat / 16),
        Bytes.hexChar (c.toNat % 16)] = 0x5C :: 0x75 :: Utf8.octets ['0', '0',
          Bytes.hexChar (c.toNat / 16), Bytes.hexChar (c.toNat % 16)] := rfl
    rw [split, digits]
    exact read
  · have plain := plain_encodeChar (by simpa using quote) (by simpa using slash) (by omega)
    rw [Utf8.octets_cons, Utf8.octets_nil, List.append_nil, readString_plain plain]

theorem readString_escaped (cs : List Char) (acc rest : Bytes) :
    readString none acc (Utf8.octets (cs.flatMap Json.escapeChar) ++ 0x22 :: rest) =
      .closed (finishString none ((Utf8.octets cs).reverse ++ acc)) rest := by
  induction cs generalizing acc with
  | nil =>
    rw [readString.eq_def]
    simp
  | cons c cs ih =>
    rw [List.flatMap_cons, Utf8.octets_append, List.append_assoc, readString_escapeChar, ih]
    simp

/-- A string is read as the text that was written. -/
theorem readString_written (s : String) (rest : Bytes) :
    readString none [] (Utf8.octets (s.toList.flatMap Json.escapeChar) ++ 0x22 :: rest) =
      .closed (.ok s) rest := by
  rw [readString_escaped, List.append_nil, finishString, List.reverse_reverse, Utf8.decode?_octets]
  simp

/-! ## What documents are read as -/

mutual
/-- The draft that the text of a document is read as: numbers are what their texts are read as. -/
def Json.asRead : Json → Draft
  | .null => .null
  | .bool b => .bool b
  | .number n => .number n.reread
  | .string s => .string (.ok s)
  | .array items => .array (asReadItems items) none
  | .object members => .object (asReadMembers members) none
def Json.asReadItems : List Json → List Draft
  | [] => []
  | v :: rest => asRead v :: asReadItems rest
def Json.asReadMembers : List (String × Json) → List (Except SyntaxError String × Draft)
  | [] => []
  | (k, v) :: rest => (.ok k, asRead v) :: asReadMembers rest
end

theorem Numeral.Proper.octets_begin {n : Numeral} (proper : n.Proper) :
    ∃ o more, n.octets = o :: more ∧ isSpace o = false ∧ o ≠ 0x5D := by
  rcases signed : n.negative with _ | _
  · rcases whole : n.whole with _ | ⟨d, ds⟩
    · exact absurd whole proper.whole.some
    · have other : ∀ d < 10, isSpace (digitOctet d) = false ∧ digitOctet d ≠ 0x5D := by decide
      have digit : d < 10 := proper.whole.digits d (by simp [whole])
      exact ⟨digitOctet d, ds.map digitOctet ++ Numeral.fractionOctets n.fraction ++
        Numeral.exponentOctets n.exponent, by simp [Numeral.octets, Numeral.unsigned, signed, whole],
        other d digit⟩
  · exact ⟨0x2D, n.unsigned, by simp [Numeral.octets, signed], by decide, by decide⟩

theorem skipSpace_cons {o : UInt8} (solid : isSpace o = false) (b : Bytes) :
    skipSpace (o :: b) = o :: b := by
  simp [skipSpace, solid]

section
variable (fuel : Nat) (rest : Bytes)

theorem readValue_null :
    readValue (fuel + 1) (0x6E :: 0x75 :: 0x6C :: 0x6C :: rest) = (.null, some rest) := by
  cases rest <;> rfl

theorem readValue_true :
    readValue (fuel + 1) (0x74 :: 0x72 :: 0x75 :: 0x65 :: rest) = (.bool true, some rest) := by
  cases rest <;> rfl

theorem readValue_false :
    readValue (fuel + 1) (0x66 :: 0x61 :: 0x6C :: 0x73 :: 0x65 :: rest) =
      (.bool false, some rest) := by
  cases rest <;> rfl

theorem readValue_quote : readValue (fuel + 1) (0x22 :: rest) =
    match readString none [] rest with
    | .closed s rest => (.string s, some rest)
    | .broken breach => .broken breach := rfl

theorem readValue_bracket : readValue (fuel + 1) (0x5B :: rest) =
    match readFirstItem fuel rest with
    | (items, breach, after) => (.array items breach, after) := rfl

theorem readValue_brace : readValue (fuel + 1) (0x7B :: rest) =
    match readFirstMember fuel rest with
    | (members, breach, after) => (.object members breach, after) := rfl

theorem readFirstItem_item {o : UInt8} (solid : isSpace o = false) (opens : o ≠ 0x5D) :
    readFirstItem (fuel + 1) (o :: rest) = readItem fuel [] (o :: rest) := by
  simp [readFirstItem, skipSpace_cons solid, opens]

theorem readFirstMember_quote :
    readFirstMember (fuel + 1) (0x22 :: rest) = readMember fuel [] rest := rfl

end

section
variable {fuel : Nat} {item : Draft} {b rest : Bytes}

theorem readItem_close (acc : List Draft) (read : readValue fuel b = (item, some (0x5D :: rest))) :
    readItem (fuel + 1) acc b = (acc.reverse ++ [item], none, some rest) := by
  rw [readItem, read]
  simp [skipSpace_cons (show isSpace 0x5D = false from rfl)]

theorem readItem_comma (acc : List Draft) {o : UInt8} (solid : isSpace o = false) (opens : o ≠ 0x5D)
    (read : readValue fuel b = (item, some (0x2C :: o :: rest))) :
    readItem (fuel + 1) acc b = readItem fuel (item :: acc) (o :: rest) := by
  rw [readItem, read]
  simp [skipSpace_cons (show isSpace 0x2C = false from rfl), skipSpace_cons solid, opens]

variable {key : Except SyntaxError String} {text : Bytes}
  (named : readString none [] text = .closed key (0x3A :: b))
include named

theorem readMember_close (acc : List (Except SyntaxError String × Draft))
    (read : readValue fuel b = (item, some (0x7D :: rest))) :
    readMember (fuel + 1) acc text = (acc.reverse ++ [(key, item)], none, some rest) := by
  rw [readMember, named]
  simp [skipSpace_cons (show isSpace 0x3A = false from rfl),
    skipSpace_cons (show isSpace 0x7D = false from rfl), read]

theorem readMember_comma (acc : List (Except SyntaxError String × Draft))
    (read : readValue fuel b = (item, some (0x2C :: 0x22 :: rest))) :
    readMember (fuel + 1) acc text = readMember fuel ((key, item) :: acc) rest := by
  rw [readMember, named]
  simp [skipSpace_cons (show isSpace 0x3A = false from rfl),
    skipSpace_cons (show isSpace 0x2C = false from rfl),
    skipSpace_cons (show isSpace 0x22 = false from rfl), read]

end

/-! ## Texts of documents -/

namespace Json

/-- A value begins with an octet that is no blank and closes no list. -/
theorem chars_begin (v : Json) :
    ∃ o more, Utf8.octets v.chars = o :: more ∧ isSpace o = false ∧ o ≠ 0x5D := by
  cases v with
  | null => exact ⟨0x6E, _, rfl, by decide, by decide⟩
  | bool b => cases b <;> exact ⟨_, _, rfl, by decide, by decide⟩
  | number n =>
    obtain ⟨numeral, proper, octets⟩ := n.spelt
    rw [chars, octets]
    exact proper.octets_begin
  | string s => exact ⟨0x22, _, rfl, by decide, by decide⟩
  | array items => exact ⟨0x5B, _, rfl, by decide, by decide⟩
  | object members => exact ⟨0x7B, _, rfl, by decide, by decide⟩

theorem charsItems_begin (v : Json) (items : List Json) :
    ∃ o more, Utf8.octets (charsItems (v :: items)) = o :: more ∧ isSpace o = false ∧ o ≠ 0x5D := by
  obtain ⟨o, more, begins, solid, opens⟩ := v.chars_begin
  cases items with
  | nil => exact ⟨o, more, begins, solid, opens⟩
  | cons w items =>
    exact ⟨o, _, by rw [charsItems, Utf8.octets_append, begins]; rfl, solid, opens⟩

/-- The octets of the members behind the first quote. -/
theorem charsMembers_begin (k : String) (v : Json) (members : Members) :
    Utf8.octets (charsMembers ((k, v) :: members)) =
      0x22 :: (Utf8.octets (k.toList.flatMap escapeChar) ++ 0x22 :: 0x3A :: (Utf8.octets v.chars ++
        match members with
        | [] => []
        | next :: rest => 0x2C :: Utf8.octets (charsMembers (next :: rest)))) := by
  have quote : Utf8.encodeChar '"' = [0x22] := by decide
  have colon : Utf8.encodeChar ':' = [0x3A] := by decide
  have comma : Utf8.encodeChar ',' = [0x2C] := by decide
  cases members <;> simp [charsMembers, writeString, quote, colon, comma]

theorem octets_string (s : String) (rest : Bytes) : Utf8.octets (chars (.string s)) ++ rest =
    0x22 :: (Utf8.octets (s.toList.flatMap escapeChar) ++ 0x22 :: rest) := by
  have quote : Utf8.encodeChar '"' = [0x22] := by decide
  simp [chars, writeString, quote]

theorem octets_array (items : List Json) : Utf8.octets (chars (.array items)) =
    0x5B :: (Utf8.octets (charsItems items) ++ [0x5D]) := by
  have opening : Utf8.encodeChar '[' = [0x5B] := by decide
  have closing : Utf8.encodeChar ']' = [0x5D] := by decide
  simp [chars, opening, closing]

theorem octets_object (members : Members) : Utf8.octets (chars (.object members)) =
    0x7B :: (Utf8.octets (charsMembers members) ++ [0x7D]) := by
  have opening : Utf8.encodeChar (Char.ofNat 0x7B) = [0x7B] := by decide
  have closing : Utf8.encodeChar (Char.ofNat 0x7D) = [0x7D] := by decide
  simp only [chars, Utf8.octets_cons, Utf8.octets_append, Utf8.octets_nil, opening, closing,
    List.cons_append, List.nil_append, List.append_nil]

theorem octets_items (v w : Json) (items : List Json) :
    Utf8.octets (charsItems (v :: w :: items)) =
      Utf8.octets v.chars ++ 0x2C :: Utf8.octets (charsItems (w :: items)) := by
  have comma : Utf8.encodeChar ',' = [0x2C] := by decide
  simp [charsItems, comma]

mutual
/-- A value is read from its text, whatever follows where a number ends. -/
theorem readValue_chars : ∀ (v : Json) (fuel : Nat) (rest : Bytes),
    2 * (Utf8.octets v.chars).length ≤ fuel → Numeral.Ends rest →
      readValue fuel (Utf8.octets v.chars ++ rest) = (v.asRead, some rest) := by
  intro v fuel rest enough ends
  -- Each octet pays for two steps: the reader takes one for a value and at most one more to enter
  -- the list or object that it stands in.
  have filled : 0 < (Utf8.octets v.chars).length := by
    obtain ⟨o, more, begins, -⟩ := v.chars_begin
    simp [begins]
  obtain ⟨fuel, rfl⟩ : ∃ n, fuel = n + 2 := ⟨fuel - 2, by omega⟩
  match v with
  | .null => exact readValue_null _ _
  | .bool true => exact readValue_true _ _
  | .bool false => exact readValue_false _ _
  | .number n => exact n.readValue_writeNumber ends _
  | .string s =>
    rw [octets_string, readValue_quote, readString_written]
    rfl
  | .array [] => rfl
  | .array (v :: items) =>
    rw [octets_array] at enough ⊢
    obtain ⟨o, more, begins, solid, opens⟩ := charsItems_begin v items
    simp only [List.length_cons, List.length_append, List.length_nil] at enough
    have read := readItem_chars (v :: items) fuel [] rest nofun (by omega)
    rw [begins] at read
    rw [List.cons_append, List.append_assoc, readValue_bracket, begins, List.cons_append,
      readFirstItem_item _ _ solid opens, List.singleton_append, ← List.cons_append, read]
    rfl
  | .object [] => rfl
  | .object ((k, v) :: members) =>
    rw [octets_object] at enough ⊢
    have begins := charsMembers_begin k v members
    rw [begins] at enough ⊢
    simp only [List.length_cons, List.length_append, List.length_nil] at enough
    have read := readMember_chars ((k, v) :: members) fuel [] rest begins
      (by simp only [List.length_cons, List.length_append]; omega)
    rw [List.cons_append, readValue_brace, List.append_assoc, List.cons_append,
      readFirstMember_quote, List.singleton_append, read]
    rfl
/-- Items are read from their text up to the bracket that closes the list. -/
theorem readItem_chars : ∀ (items : List Json) (fuel : Nat) (acc : List Draft) (rest : Bytes),
    items ≠ [] → 2 * (Utf8.octets (charsItems items)).length + 1 ≤ fuel →
      readItem fuel acc (Utf8.octets (charsItems items) ++ 0x5D :: rest) =
        (acc.reverse ++ asReadItems items, none, some rest) := by
  intro items fuel acc rest filled enough
  obtain ⟨fuel, rfl⟩ : ∃ n, fuel = n + 1 := ⟨fuel - 1, by omega⟩
  match items with
  | [] => exact absurd rfl filled
  | [v] =>
    refine readItem_close acc (readValue_chars v _ _ (by simpa [charsItems] using enough) ?_)
    rintro _ ⟨⟩
    decide
  | v :: w :: items =>
    obtain ⟨o, more, begins, solid, opens⟩ := charsItems_begin w items
    rw [octets_items] at enough ⊢
    simp only [List.length_cons, List.length_append] at enough
    have first := readValue_chars v fuel
      (0x2C :: (Utf8.octets (charsItems (w :: items)) ++ 0x5D :: rest)) (by omega) (by
        rintro _ ⟨⟩
        decide)
    have later := readItem_chars (w :: items) fuel (v.asRead :: acc) rest nofun (by omega)
    rw [begins, List.cons_append] at first later
    rw [begins, List.append_assoc, List.cons_append, List.cons_append,
      readItem_comma acc solid opens first, later]
    simp [asReadItems]
/-- Members are read from their text behind the first quote, up to the brace that closes the
    object. -/
theorem readMember_chars : ∀ (members : Members) (fuel : Nat)
    (acc : List (Except SyntaxError String × Draft)) {text : Bytes} (rest : Bytes),
    Utf8.octets (charsMembers members) = 0x22 :: text → 2 * text.length + 1 ≤ fuel →
      readMember fuel acc (text ++ 0x7D :: rest) =
        (acc.reverse ++ asReadMembers members, none, some rest) := by
  intro members fuel acc text rest begins enough
  obtain ⟨fuel, rfl⟩ : ∃ n, fuel = n + 1 := ⟨fuel - 1, by omega⟩
  match members with
  | [] => cases begins
  | [(k, v)] =>
    rw [charsMembers_begin] at begins
    obtain ⟨-, rfl⟩ := List.cons.inj begins
    simp only [List.length_cons, List.length_append, List.append_nil] at enough
    have value := readValue_chars v fuel (0x7D :: rest) (by omega) (by
      rintro _ ⟨⟩
      decide)
    have named := readString_written k (0x3A :: (Utf8.octets v.chars ++ 0x7D :: rest))
    simpa [asReadMembers] using readMember_close named acc value
  | (k, v) :: (l, w) :: members =>
    rw [charsMembers_begin] at begins
    obtain ⟨-, rfl⟩ := List.cons.inj begins
    -- The text of the members that follow is named without its first quote, which the reader takes
    -- before it reads the next member.
    have behind := charsMembers_begin l w members
    simp only [behind] at enough ⊢
    generalize Utf8.octets (l.toList.flatMap escapeChar) ++ _ = text at behind enough ⊢
    simp only [List.length_cons, List.length_append] at enough
    have value := readValue_chars v fuel (0x2C :: 0x22 :: (text ++ 0x7D :: rest)) (by omega) (by
      rintro _ ⟨⟩
      decide)
    have later := readMember_chars ((l, w) :: members) fuel ((.ok k, v.asRead) :: acc) rest behind
      (by omega)
    have named := readString_written k
      (0x3A :: (Utf8.octets v.chars ++ 0x2C :: 0x22 :: (text ++ 0x7D :: rest)))
    have read := readMember_comma named acc value
    rw [later] at read
    simpa [asReadMembers] using read
end

/-- The text of a document is read as the document, with each number as its own text is read. -/
theorem read_bytes (v : Json) : Document.read v.bytes = ⟨v.asRead, false⟩ := by
  have octets : v.bytes = Utf8.octets v.chars := by
    rw [bytes, Utf8.encode, text, String.toList_ofList]
    rfl
  have read := readValue_chars v (2 * v.bytes.length + 2) [] (by rw [octets]; omega) nofun
  rw [List.append_nil, ← octets] at read
  rw [Document.read, read]
  rfl

end Json

/-! ## Reading back -/

/-- A document stands somewhere in another, or is the other. -/
inductive Json.Inside (w : Json) : Json → Prop where
  | here : Inside w w
  | item {items : List Json} {v : Json} (there : v ∈ items) (inside : Inside w v) :
      Inside w (.array items)
  | member {members : Members} {member : String × Json} (there : member ∈ members)
      (inside : Inside w member.2) : Inside w (.object members)

/-- A whole number that fits 64 bits, with a sign or without one, or a double whose own text decodes
    to it. -/
def Number.Legible : Number → Prop
  | .whole n => -0x8000000000000000 ≤ n ∧ n ≤ 0xFFFFFFFFFFFFFFFF
  | .double x =>
    decodeBytes Decoder.json (Json.number (.double x)).bytes = .ok (.number (.double x))

/-- No object has a key twice, and every number is legible. -/
structure Json.Legible (v : Json) : Prop where
  once : ∀ members : Members, Json.Inside (.object members) v → members.keys.Nodup
  numbers : ∀ n, Json.Inside (.number n) v → n.Legible

theorem Json.decodeBytes_bytes {α : Type} (value : Decoder α) (v : Json) :
    decodeBytes value v.bytes = value textRoom v.asRead := by
  rw [decodeBytes, read_bytes, Document.decode]
  cases value textRoom v.asRead <;> rfl

/-- The legible numbers are those that their texts are read as. -/
theorem Number.legible_iff {n : Number} : n.Legible ↔ n.reread = .ok n := by
  cases n with
  | whole n => exact (reread_whole_iff n).symm
  | double x =>
    rw [Legible, Json.decodeBytes_bytes]
    simp only [Decoder.json, Json.asRead, Draft.toJson]
    cases reread (.double x) <;> simp [Draft.sound, Except.map]

namespace Json

theorem legible_null : Legible .null where
  once _ inside := by cases inside
  numbers _ inside := by cases inside

theorem legible_bool (b : Bool) : Legible (.bool b) where
  once _ inside := by cases inside
  numbers _ inside := by cases inside

theorem legible_string (s : String) : Legible (.string s) where
  once _ inside := by cases inside
  numbers _ inside := by cases inside

theorem legible_number_iff {n : Number} : Legible (.number n) ↔ n.Legible := by
  constructor
  · exact fun legible => legible.numbers n .here
  · refine fun legible => ⟨nofun, ?_⟩
    rintro _ ⟨⟩
    exact legible

theorem legible_array_iff {items : List Json} :
    Legible (.array items) ↔ ∀ v ∈ items, v.Legible := by
  constructor
  · exact fun legible v there => ⟨fun members inside => legible.once members (.item there inside),
      fun n inside => legible.numbers n (.item there inside)⟩
  · refine fun each => ⟨?_, ?_⟩
    · rintro members (_ | ⟨there, inside⟩)
      exact (each _ there).once members inside
    · rintro n (_ | ⟨there, inside⟩)
      exact (each _ there).numbers n inside

theorem legible_object_iff {members : Members} :
    Legible (.object members) ↔ members.keys.Nodup ∧ ∀ member ∈ members, member.2.Legible := by
  constructor
  · exact fun legible => ⟨legible.once members .here, fun member there =>
      ⟨fun members inside => legible.once members (.member there inside),
        fun n inside => legible.numbers n (.member there inside)⟩⟩
  · refine fun ⟨once, each⟩ => ⟨?_, ?_⟩
    · rintro others (_ | _ | ⟨there, inside⟩)
      · exact once
      · exact (each _ there).once others inside
    · rintro n (_ | _ | ⟨there, inside⟩)
      exact (each _ there).numbers n inside

theorem depthItems_le_iff {items : List Json} {n : Nat} :
    depthItems items ≤ n ↔ ∀ v ∈ items, v.depth ≤ n := by
  induction items with
  | nil => simp [depthItems]
  | cons v items ih => simp [depthItems, ih]

theorem depthMembers_le_iff {members : Members} {n : Nat} :
    depthMembers members ≤ n ↔ ∀ member ∈ members, member.2.depth ≤ n := by
  induction members with
  | nil => simp [depthMembers]
  | cons member members ih =>
    obtain ⟨k, v⟩ := member
    simp [depthMembers, ih]

theorem toJsonItems_asRead_iff {room : Room} {items : List Json} :
    Draft.toJsonItems room (asReadItems items) = .ok items ↔
      ∀ v ∈ items, Draft.toJson room v.asRead = .ok v := by
  induction items with
  | nil => simp [asReadItems, Draft.toJsonItems]
  | cons v items ih =>
    rw [List.forall_mem_cons, ← ih]
    simp only [asReadItems, Draft.toJsonItems]
    rcases Draft.toJson room v.asRead with e | w
    · simp [bind, Except.bind]
    · rcases Draft.toJsonItems room (asReadItems items) with e | ws
      · simp [bind, Except.bind]
      · simp [bind, Except.bind, pure, Except.pure]

theorem toJsonMembers_asRead_iff {room : Room} {members : Members} :
    Draft.toJsonMembers room (asReadMembers members) = .ok members ↔
      ∀ member ∈ members, Draft.toJson room member.2.asRead = .ok member.2 := by
  induction members with
  | nil => simp [asReadMembers, Draft.toJsonMembers]
  | cons member members ih =>
    obtain ⟨k, v⟩ := member
    rw [List.forall_mem_cons, ← ih]
    simp only [asReadMembers, Draft.toJsonMembers, Draft.sound]
    rcases Draft.toJson room v.asRead with e | w
    · simp [bind, Except.bind]
    · rcases Draft.toJsonMembers room (asReadMembers members) with e | ws
      · simp [bind, Except.bind]
      · simp [bind, Except.bind, pure, Except.pure]

/-- Members are read with the keys that they are written with. -/
theorem keys_of_asRead {room : Room} {members pairs : Members}
    (read : Draft.toJsonMembers room (asReadMembers members) = .ok pairs) :
    pairs.keys = members.keys := by
  induction members generalizing pairs with
  | nil =>
    obtain rfl : [] = pairs := Except.ok.inj read
    rfl
  | cons member members ih =>
    obtain ⟨k, v⟩ := member
    obtain ⟨_, named, read⟩ := bind_ok read
    obtain ⟨w, _, read⟩ := bind_ok read
    obtain ⟨more, later, read⟩ := bind_ok read
    obtain rfl := Except.ok.inj named
    obtain rfl : (k, w) :: more = pairs := Except.ok.inj read
    exact congrArg (k :: ·) (ih later)

/-- What members are read as makes up the members only if it is the members. -/
theorem ofPairs_asRead_iff {room : Room} {members pairs : Members}
    (read : Draft.toJsonMembers room (asReadMembers members) = .ok pairs) :
    Members.ofPairs pairs = members ↔ members.keys.Nodup ∧ pairs = members := by
  have keys := keys_of_asRead read
  constructor
  · intro same
    have once : members.keys.Nodup := same ▸ Members.nodup_keys_ofPairs pairs
    exact ⟨once, (Members.ofPairs_of_nodup (keys ▸ once)).symm.trans same⟩
  · rintro ⟨once, rfl⟩
    exact Members.ofPairs_of_nodup once

section
variable {room inner : Room} (entered : room.enter = .ok inner)
include entered

theorem toJson_array_iff {items : List Json} :
    Draft.toJson room (asRead (.array items)) = .ok (.array items) ↔
      ∀ v ∈ items, Draft.toJson inner v.asRead = .ok v := by
  rw [← toJsonItems_asRead_iff]
  simp only [asRead, Draft.toJson, entered, bind, Except.bind]
  rcases Draft.toJsonItems inner (asReadItems items) with e | found
  · simp
  · simp [pure, Except.pure, Draft.stopAt]

/-- An object is read back exactly if no key is there twice and each member is read back. -/
theorem toJson_object_iff {members : Members} :
    Draft.toJson room (asRead (.object members)) = .ok (.object members) ↔
      members.keys.Nodup ∧
        ∀ member ∈ members, Draft.toJson inner member.2.asRead = .ok member.2 := by
  rw [← toJsonMembers_asRead_iff]
  simp only [asRead, Draft.toJson, entered, bind, Except.bind]
  rcases read : Draft.toJsonMembers inner (asReadMembers members) with e | pairs
  · simp
  · simp [pure, Except.pure, Draft.stopAt, ofPairs_asRead_iff read]

end

/-- A document is read back where there is room for it exactly if it is legible. -/
theorem toJson_asRead_iff (v : Json) (n : Nat) :
    Draft.toJson (some n) v.asRead = .ok v ↔ v.depth ≤ n ∧ v.Legible := by
  induction v using Json.inductOn generalizing n with
  | null => simp [asRead, Draft.toJson, depth, legible_null]
  | bool b => simp [asRead, Draft.toJson, depth, legible_bool]
  | string s => simp [asRead, Draft.toJson, depth, legible_string, Draft.sound, Except.map]
  | number x =>
    rw [legible_number_iff, Number.legible_iff]
    simp only [asRead, Draft.toJson, depth]
    cases x.reread <;> simp [Draft.sound, Except.map]
  | array items ih =>
    cases n with
    | zero => simp [asRead, Draft.toJson, depth, Room.enter, bind, Except.bind]
    | succ n =>
      have entered : Room.enter (some (n + 1)) = .ok (some n) := rfl
      rw [legible_array_iff, toJson_array_iff entered, depth, Nat.add_le_add_iff_right,
        depthItems_le_iff, ← forall₂_and]
      exact forall₂_congr fun v there => ih v there n
  | object members ih =>
    cases n with
    | zero => simp [asRead, Draft.toJson, depth, Room.enter, bind, Except.bind]
    | succ n =>
      have entered : Room.enter (some (n + 1)) = .ok (some n) := rfl
      rw [legible_object_iff, toJson_object_iff entered, depth, Nat.add_le_add_iff_right,
        depthMembers_le_iff, and_left_comm, ← forall₂_and]
      exact and_congr_right fun _ => forall₂_congr fun member there => ih member there n

/-- A document decodes from its text as itself exactly if it is nested no deeper than a text may be
    and is legible. -/
theorem decodeBytes_bytes_iff (v : Json) :
    decodeBytes Decoder.json v.bytes = .ok v ↔ v.depth ≤ 127 ∧ v.Legible := by
  rw [decodeBytes_bytes]
  exact toJson_asRead_iff v 127

end Json

end JobGate
