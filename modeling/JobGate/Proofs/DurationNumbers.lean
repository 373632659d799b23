import JobGate.Proofs.DurationSegments

/-!
# Numbers and their units

What a number is written in when a double is wanted, with an exponent and the words for what is not
finite (`Number`), and how long a number of units lasts (`Lasts`). Of these numbers exactly those
without letters are read (`parseNumber_ok_iff`), so a segment is read just if it lasts some time
(`ofSegment_ok_iff`).
-/
namespace JobGate.Duration

def Digits (cs : List Char) : Prop := ∀ c ∈ cs, c.isDigit = true

instance : DecidablePred Digits := fun cs => List.decidableBAll _ cs

/-- A sign or none, and whether it is a minus. -/
inductive Sign : List Char → Bool → Prop where
  | none : Sign [] false
  | plus : Sign ['+'] false
  | minus : Sign ['-'] true

/-- Digits with or without a point, and at least one digit: those before the point and those
    behind it. -/
inductive Decimal : List Char → List Char → List Char → Prop where
  | whole {digits : List Char} : Digits digits → digits ≠ [] → Decimal digits digits []
  | pointed {whole fraction : List Char} : Digits whole → Digits fraction →
      whole ++ fraction ≠ [] → Decimal (whole ++ '.' :: fraction) whole fraction

/-- An exponent or none, and its value. -/
inductive Exponent : List Char → Int → Prop where
  | none : Exponent [] 0
  | written {mark : Char} {sign digits : List Char} {negative : Bool} : mark = 'e' ∨ mark = 'E' →
      Sign sign negative → Digits digits → digits ≠ [] →
      Exponent (mark :: (sign ++ digits))
        (if negative then -(digitsValue digits : Int) else digitsValue digits)

/-- The words for numbers that are not finite. -/
def words : List (List Char) := ["inf".toList, "infinity".toList, "nan".toList]

/-- A number as it is written, and the double nearest to it; none if that is not finite. -/
inductive Number : List Char → Option Binary64 → Prop where
  | decimal {sign digits exponent whole fraction : List Char} {negative : Bool} {e : Int} :
      Sign sign negative → Decimal digits whole fraction → Exponent exponent e →
      Number (sign ++ (digits ++ exponent))
        (Binary64.ofDecimal negative (digitsValue (whole ++ fraction)) (e - fraction.length))
  | word {sign word : List Char} {negative : Bool} : Sign sign negative →
      word.map Char.toLower ∈ words → Number (sign ++ word) none

variable {cs digits whole fraction sign rest : List Char} {negative : Bool}
  {value : Option Binary64}

/-- The front of a number behind its sign. -/
def Numeric (cs : List Char) : Prop := ∃ c rest, cs = c :: rest ∧ (c.isDigit = true ∨ c = '.')

theorem Decimal.numeric (decimal : Decimal digits whole fraction) : Numeric digits := by
  cases decimal with
  | whole only some =>
    obtain ⟨c, rest, rfl⟩ := List.exists_cons_of_ne_nil some
    exact ⟨c, rest, rfl, .inl (only c (.head _))⟩
  | pointed only _ _ =>
    rcases whole with _ | ⟨c, rest⟩
    · exact ⟨'.', fraction, rfl, .inr rfl⟩
    · exact ⟨c, _, rfl, .inl (only c (.head _))⟩

theorem splitSign_append (signed : Sign sign negative) (numeric : Numeric rest) :
    splitSign (sign ++ rest) = (negative, rest) := by
  cases signed with
  | none =>
    obtain ⟨c, rest, rfl, digit | rfl⟩ := numeric
    · have plus : c ≠ '+' := by rintro rfl; cases digit
      have minus : c ≠ '-' := by rintro rfl; cases digit
      rw [List.nil_append, splitSign.eq_def]
      simp [plus, minus]
    · rfl
  | plus => rfl
  | minus => rfl

theorem splitSign_spec (cs : List Char) :
    ∃ sign, Sign sign (splitSign cs).1 ∧ cs = sign ++ (splitSign cs).2 := by
  unfold splitSign
  split
  · exact ⟨_, .minus, rfl⟩
  · exact ⟨_, .plus, rfl⟩
  · exact ⟨_, .none, rfl⟩

theorem Decimal.scanned (decimal : Decimal digits whole fraction) :
    digits.takeWhile Char.isDigit = whole ∧
      (digits.dropWhile Char.isDigit = '.' :: fraction ∧ Digits fraction ∧ whole ++ fraction ≠ [] ∨
        digits.dropWhile Char.isDigit = [] ∧ fraction = [] ∧ whole ≠ []) := by
  cases decimal with
  | whole only some =>
    exact ⟨List.takeWhile_eq_self_iff.mpr only,
      .inr ⟨List.dropWhile_eq_nil_iff.mpr only, rfl, some⟩⟩
  | pointed only behind some =>
    rw [List.takeWhile_append_of_pos only, List.dropWhile_append_of_pos only]
    have point : Char.isDigit '.' = false := rfl
    simp [point, behind, some]

theorem parseNumber_decimal (signed : Sign sign negative)
    (decimal : Decimal digits whole fraction) : parseNumber (sign ++ digits) =
      .ok (Binary64.ofDecimal negative (digitsValue (whole ++ fraction)) (-fraction.length)) := by
  have split := splitSign_append signed decimal.numeric
  obtain ⟨c, rest, begins, _⟩ := decimal.numeric
  have some : (sign ++ digits).isEmpty = false := by simp [begins]
  obtain ⟨front, ⟨back, only, given⟩ | ⟨back, rfl, given⟩⟩ := decimal.scanned
  · have allDigits : fraction.all Char.isDigit = true := List.all_eq_true.mpr only
    have filled : (whole.isEmpty && fraction.isEmpty) = false := by
      simpa [Bool.and_eq_false_iff, ← not_and_or] using given
    simp only [parseNumber, some, split, front, back, allDigits, filled]
    rfl
  · have filled : whole.isEmpty = false := by simpa using given
    simp only [parseNumber, some, split, front, back, filled, List.append_nil]
    rfl

theorem parseNumber_plus (numeric : Numeric cs) : parseNumber ('+' :: cs) = parseNumber cs := by
  have bare : splitSign cs = (false, cs) := splitSign_append .none numeric
  have signed : splitSign ('+' :: cs) = (false, cs) := splitSign_append .plus numeric
  obtain ⟨c, rest, rfl, _⟩ := numeric
  simp only [parseNumber, bare, signed, List.isEmpty_cons]

theorem decimal_of_parseNumber (read : parseNumber cs = .ok value) :
    ∃ sign negative digits whole fraction, cs = sign ++ digits ∧ Sign sign negative ∧
      Decimal digits whole fraction ∧ value =
        Binary64.ofDecimal negative (digitsValue (whole ++ fraction)) (-fraction.length) := by
  obtain ⟨sign, signed, text⟩ := splitSign_spec cs
  rcases split : splitSign cs with ⟨negative, body⟩
  rw [split] at signed text
  have parts := List.takeWhile_append_dropWhile (p := Char.isDigit) (l := body)
  have only : Digits (body.takeWhile Char.isDigit) := fun c inside => List.mem_takeWhile_imp inside
  by_cases some : cs.isEmpty = true
  · simp [parseNumber, some] at read
  · simp only [parseNumber, some, split] at read
    rcases back : body.dropWhile Char.isDigit with _ | ⟨c, behind⟩
    · rw [back, List.append_nil] at parts
      by_cases filled : body = []
      · simp [filled] at read
      · rw [parts] at only
        refine ⟨sign, negative, body, body, [], text, signed, .whole only filled, ?_⟩
        simpa [back, parts, filled] using read.symm
    · by_cases point : c = '.'
      · subst point
        rw [back] at parts
        by_cases refused : (!behind.all Char.isDigit ||
            (body.takeWhile Char.isDigit).isEmpty && behind.isEmpty) = true
        · simp [back, refused] at read
        · simp only [back, refused] at read
          have digits : Digits behind := by
            simp only [Bool.or_eq_true, not_or] at refused
            simpa [Digits] using refused.1
          have given : body.takeWhile Char.isDigit ++ behind ≠ [] := by
            intro none
            simp [List.append_eq_nil_iff.mp none] at refused
          have decimal := Decimal.pointed only digits given
          rw [parts] at decimal
          exact ⟨sign, negative, body, _, behind, text, signed, decimal, (Except.ok.inj read).symm⟩
      · simp [back, point] at read

theorem isAlphabetic_of_isAlpha {c : Char} (letter : c.isAlpha = true) : isAlphabetic c = true := by
  have below : c.val ≤ 'z'.val := by
    rcases (Bool.or_eq_true _ _).mp letter with upper | lower
    · have capital : c.val ≤ 'Z'.val := (of_decide_eq_true upper).2
      exact UInt32.le_trans capital (by decide)
    · exact of_decide_eq_true ((Bool.and_eq_true _ _).mp lower).2
  have small : c.toNat < 0x80 := Nat.lt_of_le_of_lt (UInt32.le_iff_toNat_le.mp below) (by decide)
  rw [isAlphabetic, if_pos small]
  exact letter

theorem isAlphabetic_of_toLower {c : Char} (letter : c.toLower.isAlpha = true) :
    isAlphabetic c = true := by
  by_cases upper : c.isUpper = true
  · exact isAlphabetic_of_isAlpha ((Bool.or_eq_true _ _).mpr (.inl upper))
  · have same : c.toLower = c := dif_neg fun inside => upper (decide_eq_true inside)
    rw [same] at letter
    exact isAlphabetic_of_isAlpha letter

theorem lettered_word {word : List Char} (among : word.map Char.toLower ∈ words) :
    ∃ c ∈ word, isAlphabetic c = true := by
  cases word with
  | nil => cases (by decide : ¬ [] ∈ words) among
  | cons c rest =>
    refine ⟨c, .head _, isAlphabetic_of_toLower ?_⟩
    have first : ∀ w ∈ words, w.head?.map Char.isAlpha = some true := by decide
    exact Option.some.inj (first _ among)

/-- Of the numbers that may be written for a double, those without letters are read. -/
theorem parseNumber_ok_iff (plain : Unlettered cs) :
    parseNumber cs = .ok value ↔ Number cs value := by
  constructor
  · intro read
    obtain ⟨sign, negative, digits, whole, fraction, rfl, signed, decimal, rfl⟩ :=
      decimal_of_parseNumber read
    have number := Number.decimal signed decimal .none
    rwa [List.append_nil, Int.zero_sub] at number
  · intro number
    cases number with
    | @decimal sign digits exponent whole fraction negative e signed decimal ending =>
      cases ending with
      | none =>
        rw [List.append_nil, Int.zero_sub]
        exact parseNumber_decimal signed decimal
      | @written mark sign digits negative marked _ _ _ =>
        have letter : isAlphabetic mark = true := by
          rcases marked with rfl | rfl
          · decide
          · decide
        have none := plain mark (by simp)
        rw [letter] at none
        cases none
    | @word sign word negative signed among =>
      obtain ⟨c, inside, letter⟩ := lettered_word among
      have none := plain c (List.mem_append_right _ inside)
      rw [letter] at none
      cases none

/-- The units with their lengths in seconds, as fractions. -/
def unitLengths : List (String × Nat × Nat) :=
  [("ms", 1, 1000), ("s", 1, 1), ("m", 60, 1), ("h", 3600, 1)]

/-- A unit, and the double nearest to its length in seconds. -/
def IsUnit (unit : List Char) (seconds : Binary64) : Prop :=
  ∃ name num den, (name, num, den) ∈ unitLengths ∧ unit = name.toList ∧
    Binary64.ofRatio false num den = some seconds

/-- That many units last so long: the product is not below zero, and the duration is the number of
    whole nanoseconds nearest to it. -/
def Lasts (segment : Segment) (d : Duration) : Prop :=
  ∃ number unit product, Number segment.1 (some number) ∧ IsUnit segment.2 unit ∧
    unit.mul number = some product ∧ (product.negative = true → product.isZero = true) ∧
    d.nanos = Binary64.roundQuotient (product.ratio.1 * 1000000000) product.ratio.2

/-- A segment lasts as long with another text for the same number. -/
theorem Lasts.congr {number other unit : List Char} {d : Duration} (lasts : Lasts (number, unit) d)
    (same : ∀ value, Number number value → Number other value) : Lasts (other, unit) d := by
  obtain ⟨value, seconds, product, written, rest⟩ := lasts
  exact ⟨value, seconds, product, same _ written, rest⟩

theorem Lasts.isUnit {segment : Segment} {d : Duration} (lasts : Lasts segment d) :
    ∃ seconds, IsUnit segment.2 seconds := by
  obtain ⟨_, seconds, _, _, known, _⟩ := lasts
  exact ⟨seconds, known⟩

theorem unitSeconds?_eq_some_iff {unit : List Char} {seconds : Binary64} :
    unitSeconds? unit = some seconds ↔ IsUnit unit seconds := by
  constructor
  · intro known
    unfold unitSeconds? at known
    split at known
    · exact ⟨"ms", 1, 1000, by decide, ‹_›, known⟩
    · split at known
      · exact ⟨"s", 1, 1, by decide, ‹_›, known⟩
      · split at known
        · exact ⟨"m", 60, 1, by decide, ‹_›, known⟩
        · split at known
          · exact ⟨"h", 3600, 1, by decide, ‹_›, known⟩
          · cases known
  · rintro ⟨name, num, den, among, rfl, same⟩
    simp only [unitLengths, List.mem_cons, Prod.mk.injEq, List.not_mem_nil, or_false] at among
    rcases among with ⟨rfl, rfl, rfl⟩ | ⟨rfl, rfl, rfl⟩ | ⟨rfl, rfl, rfl⟩ | ⟨rfl, rfl, rfl⟩
    all_goals exact same

theorem IsUnit.lettered {unit : List Char} {seconds : Binary64} (known : IsUnit unit seconds) :
    Lettered unit := by
  obtain ⟨name, num, den, among, rfl, _⟩ := known
  have each : ∀ entry ∈ unitLengths, Lettered entry.1.toList := by decide
  exact each _ among

theorem IsUnit.ne_nil {unit : List Char} {seconds : Binary64} (known : IsUnit unit seconds) :
    unit ≠ [] := by
  obtain ⟨name, num, den, among, rfl, _⟩ := known
  have each : ∀ entry ∈ unitLengths, entry.1.toList ≠ [] := by decide
  exact each _ among

theorem nanosOf?_eq_some_iff {x : Binary64} {n : Nat} :
    nanosOf? x = some n ↔ (x.negative = true → x.isZero = true) ∧
      n = Binary64.roundQuotient (x.ratio.1 * 1000000000) x.ratio.2 := by
  rw [nanosOf?]
  by_cases below : (x.negative && !x.isZero) = true
  · rw [if_pos below]
    simp only [Bool.and_eq_true, Bool.not_eq_true'] at below
    simp [below.1, below.2]
  · rw [if_neg below, Option.some.injEq]
    simp only [Bool.and_eq_true, Bool.not_eq_true', not_and, Bool.not_eq_false] at below
    exact ⟨fun same => ⟨below, same.symm⟩, fun given => given.2.symm⟩

theorem ofNanos?_eq_some_iff {n : Nat} {d : Duration} : ofNanos? n = some d ↔ d.nanos = n := by
  rw [ofNanos?]
  constructor
  · intro made
    split at made
    · cases made
      rfl
    · cases made
  · rintro rfl
    rw [dif_pos d.bounded]

/-- A segment whose number has no letters is read just if it lasts some time. -/
theorem ofSegment_ok_iff {segment : Segment} {d : Duration} (plain : Unlettered segment.1) :
    ofSegment segment = .ok d ↔ Lasts segment d := by
  constructor
  · intro read
    rw [ofSegment] at read
    split at read
    · cases read
    · split at read
      · cases read
      · rename_i number parsed
        split at read
        · cases read
        · rename_i unit known
          split at read
          · rename_i made
            obtain rfl := Except.ok.inj read
            obtain ⟨nanos, rounds, inRange⟩ := Option.bind_eq_some_iff.mp made
            obtain ⟨product, multiplies, counts⟩ := Option.bind_eq_some_iff.mp rounds
            obtain ⟨finite, rfl, multiplied⟩ := Option.bind_eq_some_iff.mp multiplies
            obtain ⟨above, rounded⟩ := nanosOf?_eq_some_iff.mp counts
            exact ⟨finite, unit, product, (parseNumber_ok_iff plain).mp parsed,
              unitSeconds?_eq_some_iff.mp known, multiplied, above,
              (ofNanos?_eq_some_iff.mp inRange).trans rounded⟩
          · cases read
  · rintro ⟨number, unit, product, written, known, multiplied, above, rounded⟩
    have some : segment.2.isEmpty = false := by simpa using known.ne_nil
    have counted := nanosOf?_eq_some_iff.mpr ⟨above, rounded⟩
    have made := ofNanos?_eq_some_iff.mpr (rfl : d.nanos = d.nanos)
    simp [ofSegment, some, (parseNumber_ok_iff plain).mpr written,
      unitSeconds?_eq_some_iff.mpr known, multiplied, counted, made]

end JobGate.Duration
