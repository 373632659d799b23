import JobGate.Proofs.DurationNumbers
import JobGate.Proofs.Pieces
import JobGate.Proofs.Results
import Mathlib.Algebra.GroupWithZero.Nat
import Mathlib.Data.List.Forall2

/-!
# The grammar of durations

A text of segments lasts as long as its segments do together, if that is in range
(`parse_of_spells`), and nothing else is read but a bare zero (`parse_ok_iff`). A number goes up to
the next letter, so none has an exponent (`read_exactly`).
-/
namespace JobGate.Duration

def Blanks (cs : List Char) : Prop := ∀ c ∈ cs, isBlank c = true

/-- The text is plus signs and then these segments, but for blanks around it, and does not begin
    with a minus. -/
def Spells (text : String) (l : List Segment) : Prop :=
  ∃ before signs after, text.toList = before ++ (signs ++ written l) ++ after ∧ Blanks before ∧
    Blanks after ∧ (∀ c ∈ signs, c = '+') ∧ (signs ++ written l).head? ≠ some '-'

/-- The text is a zero without a unit, but for blanks around it. -/
def BareZero (text : String) : Prop :=
  ∃ before after, text.toList = before ++ ['0'] ++ after ∧ Blanks before ∧ Blanks after

/-- The segments have numbers without letters and last so long, one after another. -/
def Timed (l : List Segment) (parts : List Duration) : Prop :=
  List.Forall₂ (fun segment part => Unlettered segment.1 ∧ Lasts segment part) l parts

def total (parts : List Duration) : Nat := (parts.map nanos).sum

/-- The duration of that many nanoseconds, or the error that there is none. -/
def inRange (n : Nat) : Except DurationError Duration :=
  match ofNanos? n with
  | some d => .ok d
  | none => .error .outOfRange

variable {text : String} {l : List Segment} {parts : List Duration} {d : Duration}

theorem inRange_nanos (d : Duration) : inRange d.nanos = .ok d := by
  rw [inRange, ofNanos?_eq_some_iff.mpr rfl]

theorem inRange_eq_error_iff {n : Nat} :
    inRange n = .error .outOfRange ↔ ∀ d : Duration, d.nanos ≠ n := by
  constructor
  · rintro out d rfl
    rw [inRange_nanos] at out
    cases out
  · intro none
    rcases made : ofNanos? n with _ | d
    · rw [inRange, made]
    · exact absurd (ofNanos?_eq_some_iff.mp made) (none d)

theorem inRange_eq_ok_iff {n : Nat} : inRange n = .ok d ↔ d.nanos = n := by
  rw [← ofNanos?_eq_some_iff]
  rcases made : ofNanos? n with _ | e
  · simp [inRange, made]
  · simp [inRange, made]

/-- What is longer than what is out of range is out of range as well. -/
theorem inRange_error_mono {n m : Nat} (less : n ≤ m) (out : inRange n = .error .outOfRange) :
    inRange m = .error .outOfRange := by
  rw [inRange_eq_error_iff] at out ⊢
  rintro d rfl
  exact out ⟨n, Nat.lt_of_le_of_lt less d.bounded⟩ rfl

/-- However the checks are placed along the way, the sum decides. -/
theorem foldlM_addSegment (timed : Timed l parts) (start : Duration) :
    l.foldlM addSegment start = inRange (start.nanos + total parts) := by
  induction timed generalizing start with
  | nil => exact (inRange_nanos start).symm
  | @cons segment part l parts given _ ih =>
    have read : ofSegment segment = .ok part := (ofSegment_ok_iff given.1).mpr given.2
    have sums : start.nanos + total (part :: parts) = start.nanos + part.nanos + total parts := by
      simp [total, Nat.add_assoc]
    rw [List.foldlM_cons, sums]
    rcases added : start.add? part with _ | sum
    · -- what is added later does not bring the sum back into range
      have out : inRange (start.nanos + part.nanos) = .error .outOfRange := by
        rw [add?] at added
        rw [inRange, added]
      rw [inRange_error_mono (Nat.le_add_right _ _) out]
      simp [addSegment, read, added, bind, Except.bind]
    · have sums_up : sum.nanos = start.nanos + part.nanos := ofNanos?_eq_some_iff.mp added
      rw [← sums_up, ← ih sum]
      simp [addSegment, read, added, bind, Except.bind]

theorem timed_of_foldlM (plain : ∀ segment ∈ l, Unlettered segment.1) {start : Duration}
    (run : l.foldlM addSegment start = .ok d) : ∃ parts, Timed l parts := by
  induction l generalizing start with
  | nil => exact ⟨[], .nil⟩
  | cons segment l ih =>
    rw [List.foldlM_cons] at run
    obtain ⟨sum, here, run⟩ := bind_ok run
    obtain ⟨parts, timed⟩ := ih (fun other among => plain other (.tail _ among)) run
    rcases read : ofSegment segment with e | part
    · simp [addSegment, read] at here
    · have unlettered := plain segment (.head _)
      exact ⟨part :: parts, .cons ⟨unlettered, (ofSegment_ok_iff unlettered).mp read⟩ timed⟩

/-! ## What is written -/

variable {segment : Segment} {part : Duration}

theorem decimal_of_lasts (plain : Unlettered segment.1) (lasts : Lasts segment part) :
    ∃ sign negative digits whole fraction, segment.1 = sign ++ digits ∧ Sign sign negative ∧
      Decimal digits whole fraction := by
  obtain ⟨number, _, _, written, _⟩ := lasts
  have read := (parseNumber_ok_iff plain).mpr written
  obtain ⟨sign, negative, digits, whole, fraction, text, signed, decimal, _⟩ :=
    decimal_of_parseNumber read
  exact ⟨sign, negative, digits, whole, fraction, text, signed, decimal⟩

theorem solid_digits {cs : List Char} (digits : Digits cs) : Solid cs := by
  intro c inside
  have digit := digits c inside
  simp only [Char.isDigit, Bool.and_eq_true, decide_eq_true_eq, ge_iff_le, UInt32.le_iff_toNat_le,
    Char.toNat_val] at digit
  have : '0'.toNat = 48 := rfl
  have : '9'.toNat = 57 := rfl
  constructor
  · simp only [isBlank, Bool.or_eq_false_iff, Bool.and_eq_false_iff, decide_eq_false_iff_not,
      beq_eq_false_iff_ne]
    omega
  · rintro rfl
    have : ','.toNat = 44 := rfl
    omega

theorem solid_plus {signs : List Char} (pluses : ∀ c ∈ signs, c = '+') : Solid signs := by
  intro c inside
  rw [pluses c inside]
  decide

theorem solid_number (plain : Unlettered segment.1) (lasts : Lasts segment part) :
    Solid segment.1 := by
  obtain ⟨sign, negative, digits, whole, fraction, text, signed, decimal⟩ :=
    decimal_of_lasts plain lasts
  have front : Solid sign := by
    cases signed with
    | none => decide
    | plus => decide
    | minus => decide
  rw [text]
  refine front.append ?_
  cases decimal with
  | whole only _ => exact solid_digits only
  | pointed only behind _ =>
    have point : Solid ['.'] := by decide
    exact (solid_digits only).append (point.append (solid_digits behind))

theorem IsUnit.solid {unit : List Char} {seconds : Binary64} (known : IsUnit unit seconds) :
    Solid unit := by
  obtain ⟨name, num, den, among, rfl, _⟩ := known
  have each : ∀ entry ∈ unitLengths, Solid entry.1.toList := by decide
  exact each _ among

theorem Timed.wellCut (timed : Timed l parts) : ∀ segment ∈ l, WellCut segment := by
  induction timed with
  | nil => exact nofun
  | @cons segment part l parts given _ ih =>
    intro other among
    rcases List.mem_cons.mp among with rfl | later
    · obtain ⟨sign, negative, digits, whole, fraction, text, _, decimal⟩ :=
        decimal_of_lasts given.1 given.2
      obtain ⟨c, rest, begins, _⟩ := decimal.numeric
      obtain ⟨seconds, known⟩ := given.2.isUnit
      exact ⟨by simp [text, begins], given.1, known.ne_nil, known.lettered⟩
    · exact ih other later

theorem Timed.solid (timed : Timed l parts) : Solid (written l) := by
  induction timed with
  | nil => exact nofun
  | cons given _ ih =>
    have number := solid_number given.1 given.2
    obtain ⟨seconds, known⟩ := given.2.isUnit
    exact (number.append known.solid).append ih

theorem Numeric.dropWhile_plus {cs : List Char} (numeric : Numeric cs) (rest : List Char) :
    (cs ++ rest).dropWhile (· == '+') = cs ++ rest := by
  obtain ⟨c, behind, rfl, front⟩ := numeric
  have other : c ≠ '+' := by
    rintro rfl
    simp at front
  simp [other]

theorem timed_behind_plus (timed : Timed l parts) :
    ∃ bare, Timed bare parts ∧ (written l).dropWhile (· == '+') = written bare := by
  cases timed with
  | nil => exact ⟨[], .nil, rfl⟩
  | @cons segment part l parts given others =>
    obtain ⟨number, unit⟩ := segment
    obtain ⟨plain, lasts⟩ := given
    obtain ⟨sign, negative, digits, whole, fraction, rfl, signed, decimal⟩ :=
      decimal_of_lasts plain lasts
    have numeric : Numeric digits := decimal.numeric
    cases signed with
    | plus =>
      have bare : Unlettered digits := fun c inside => plain c (.tail _ inside)
      refine ⟨(digits, unit) :: l, .cons ⟨bare, lasts.congr fun value number => ?_⟩ others, ?_⟩
      · rw [← parseNumber_ok_iff bare, ← parseNumber_plus numeric]
        exact (parseNumber_ok_iff plain).mpr number
      · have kept := numeric.dropWhile_plus (unit ++ written l)
        simpa [written] using kept
    | none =>
      have kept := numeric.dropWhile_plus (unit ++ written l)
      exact ⟨_, .cons ⟨plain, lasts⟩ others, by simpa [written] using kept⟩
    | minus => exact ⟨_, .cons ⟨plain, lasts⟩ others, rfl⟩

/-! ## Reading -/

theorem Timed.exists_letter (timed : Timed l parts) (some : l ≠ []) :
    ∃ c ∈ written l, isAlphabetic c = true := by
  cases timed with
  | nil => exact absurd rfl some
  | cons given _ =>
    obtain ⟨seconds, known⟩ := given.2.isUnit
    obtain ⟨c, rest, unit⟩ := List.exists_cons_of_ne_nil known.ne_nil
    exact ⟨c, by simp [written, unit], known.lettered c (by simp [unit])⟩

theorem parse_of_spells (spells : Spells text l) (timed : Timed l parts) :
    parse text = inRange (total parts) := by
  obtain ⟨before, signs, after, same, blankBefore, blankAfter, pluses, notNegative⟩ := spells
  have trimmed : trimBlanks text.toList = signs ++ written l := by
    rw [same]
    exact ((solid_plus pluses).append timed.solid).trimBlanks blankBefore blankAfter
  have notZero : signs ++ written l ≠ ['0'] := by
    intro zero
    by_cases none : l = []
    · subst none
      have among : '0' ∈ signs ++ written [] := zero ▸ .head _
      cases pluses '0' (by simpa [written] using among)
    · obtain ⟨c, inside, letter⟩ := timed.exists_letter none
      have among : c ∈ ['0'] := zero ▸ List.mem_append_right _ inside
      rw [List.mem_singleton.mp among] at letter
      cases letter
  -- the plus of the first number goes with those in front of it
  obtain ⟨bare, timedBare, dropped⟩ := timed_behind_plus timed
  have behindSigns : (signs ++ written l).dropWhile (· == '+') = written bare := by
    rw [List.dropWhile_append_of_pos (by simpa using pluses), dropped]
  simp only [parse, trimmed]
  rw [if_neg notNegative, if_neg notZero, behindSigns, segments_written timedBare.wellCut,
    foldlM_addSegment timedBare]
  simp [zero]

theorem spells_of_parse (read : parse text = .ok d) (notZero : ¬ BareZero text) :
    ∃ l parts, Spells text l ∧ Timed l parts := by
  obtain ⟨before, after, same, blankBefore, blankAfter⟩ := trimBlanks_spec text.toList
  simp only [parse] at read
  split at read
  · cases read
  · rename_i notNegative
    split at read
    · rename_i bare
      rw [bare] at same
      exact absurd ⟨before, after, same, blankBefore, blankAfter⟩ notZero
    · have rounds := rounds_segments ((trimBlanks text.toList).dropWhile (· == '+'))
      have parts := List.takeWhile_append_dropWhile (p := (· == '+')) (l := trimBlanks text.toList)
      rw [← rounds.written] at parts
      obtain ⟨_, timed⟩ := timed_of_foldlM rounds.unlettered read
      refine ⟨_, _, ⟨before, _, after, parts.symm ▸ same, blankBefore, blankAfter, ?_, ?_⟩, timed⟩
      · intro c inside
        simpa using List.mem_takeWhile_imp inside
      · rw [parts]
        exact notNegative

theorem parse_zero (zero : BareZero text) : parse text = .ok .zero := by
  obtain ⟨before, after, same, blankBefore, blankAfter⟩ := zero
  have solid : Solid ['0'] := by decide
  have trimmed : trimBlanks text.toList = ['0'] := same ▸ solid.trimBlanks blankBefore blankAfter
  simp [parse, trimmed]

theorem parse_ok_iff : parse text = .ok d ↔ BareZero text ∧ d = .zero ∨
    ∃ l parts, Spells text l ∧ Timed l parts ∧ d.nanos = total parts := by
  constructor
  · intro read
    by_cases bare : BareZero text
    · rw [parse_zero bare] at read
      exact .inl ⟨bare, (Except.ok.inj read).symm⟩
    · obtain ⟨l, parts, spells, timed⟩ := spells_of_parse read bare
      rw [parse_of_spells spells timed] at read
      exact .inr ⟨l, parts, spells, timed, inRange_eq_ok_iff.mp read⟩
  · rintro (⟨bare, rfl⟩ | ⟨l, parts, spells, timed, sums⟩)
    · exact parse_zero bare
    · rw [parse_of_spells spells timed]
      exact inRange_eq_ok_iff.mpr sums

/-- The text is a bare zero, or plus signs and then segments with a number that is accepted in each,
    which last so long together. -/
def Means (accepted : List Char → Prop) (text : String) (d : Duration) : Prop :=
  BareZero text ∧ d = .zero ∨ ∃ l parts, l ≠ [] ∧ Spells text l ∧
    (∀ segment ∈ l, accepted segment.1) ∧ List.Forall₂ Lasts l parts ∧ d.nanos = total parts

/-- There is no segment if there are no characters but plus signs. -/
theorem spells_nil_iff : Spells text [] ↔ ∀ c ∈ trimBlanks text.toList, c = '+' := by
  constructor
  · rintro ⟨before, signs, after, same, blankBefore, blankAfter, pluses, _⟩
    have solid : Solid (signs ++ written []) := (solid_plus pluses).append nofun
    rw [same, solid.trimBlanks blankBefore blankAfter]
    simpa [written] using pluses
  · intro pluses
    obtain ⟨before, after, same, blankBefore, blankAfter⟩ := trimBlanks_spec text.toList
    refine ⟨before, _, after, by simpa [written] using same, blankBefore, blankAfter, pluses, ?_⟩
    intro minus
    have among := List.mem_of_mem_head? (Option.mem_def.mpr minus)
    rw [written, List.flatMap_nil, List.append_nil] at among
    cases pluses '-' among

theorem means_iff (some : ¬ Spells text []) : Means Unlettered text d ↔ parse text = .ok d := by
  rw [parse_ok_iff, Means]
  refine or_congr Iff.rfl ⟨?_, ?_⟩
  · rintro ⟨l, parts, _, spells, plain, lasts, sums⟩
    exact ⟨l, parts, spells, (List.forall₂_and_left _ _).mpr ⟨plain, lasts⟩, sums⟩
  · rintro ⟨l, parts, spells, timed, sums⟩
    have filled : l ≠ [] := by
      rintro rfl
      exact some spells
    obtain ⟨plain, lasts⟩ := (List.forall₂_and_left _ _).mp timed
    exact ⟨l, parts, filled, spells, plain, lasts, sums⟩

/-- Texts with a segment in them are read just if they are durations whose numbers have no letters,
    and refused otherwise. Whatever the text is, the cut takes it off round by round, of which there
    are at most as many as characters, and leaves every character whole. -/
theorem read_exactly (text : String) :
    (¬ Spells text [] → (∀ d, parse text = .ok d ↔ Means Unlettered text d) ∧
      ((∃ e, parse text = .error e) ↔ ∀ d, ¬ Means Unlettered text d)) ∧
    ∀ cs, Rounds cs (segments cs) ∧ (segments cs).length ≤ cs.length ∧
      written (segments cs) = cs := by
  refine ⟨fun some => ⟨fun d => (means_iff some).symm, ?_⟩, fun cs => ?_⟩
  · constructor
    · rintro ⟨e, refused⟩ d means
      rw [(means_iff some).mp means] at refused
      cases refused
    · intro none
      rcases read : parse text with e | d
      · exact ⟨e, rfl⟩
      · exact absurd ((means_iff some).mpr read) (none d)
  · have rounds := rounds_segments cs
    exact ⟨rounds, rounds.length_le, rounds.written⟩

theorem minute_and_half_read : (¬ Spells "1m30s" []) ∧
    Means Unlettered "1m30s" ⟨90000000000, by decide⟩ := by
  have some : ¬ Spells "1m30s" [] := by
    intro pluses
    cases spells_nil_iff.mp pluses 's' (by decide)
  exact ⟨some, (((read_exactly "1m30s").1 some).1 _).mp (by decide +kernel)⟩

theorem means_empty (accepted : List Char → Prop) (d : Duration) : ¬ Means accepted "" d := by
  rintro (⟨⟨before, after, same, _⟩, _⟩ | ⟨l, parts, some, ⟨before, signs, after, same, _⟩, _,
    lasts, _⟩)
  · exact absurd (congrArg List.length same) (by simp)
  · cases lasts with
    | nil => exact some rfl
    | cons given _ =>
      obtain ⟨seconds, known⟩ := given.isUnit
      have length := congrArg List.length same
      have unit := List.length_pos_iff.mpr known.ne_nil
      simp [written] at length
      omega

/-- A thousand seconds are not read when they are written with an exponent, and no text at all is
    read as no time, though it is no duration. -/
theorem exponent_refused : (Means (fun _ => True) "1e3s" ⟨1000000000000, by decide⟩ ∧
    parse "1e3s" = .error .invalidUnit) ∧
    parse "" = .ok .zero ∧ ∀ d, ¬ Means (fun _ => True) "" d := by
  refine ⟨⟨?_, by decide +kernel⟩, by decide +kernel, means_empty _⟩
  have plain : Unlettered "1000".toList := by decide
  have thousand : Lasts ("1000".toList, ['s']) ⟨1000000000000, by decide⟩ :=
    (ofSegment_ok_iff plain).mp (by decide +kernel)
  have lasts : Lasts ("1e3".toList, ['s']) ⟨1000000000000, by decide⟩ := by
    refine thousand.congr fun value number => ?_
    have read := (parseNumber_ok_iff plain).mpr number
    have same : parseNumber "1000".toList = .ok (Binary64.ofDecimal false 1 3) := by
      decide +kernel
    rw [← Except.ok.inj (same.symm.trans read)]
    have one : Decimal ['1'] ['1'] [] := .whole (by decide) (by decide)
    exact .decimal .none one (.written (.inl rfl) .none (by decide) (by decide))
  have spells : Spells "1e3s" [("1e3".toList, ['s'])] :=
    ⟨[], [], [], rfl, nofun, nofun, nofun, by decide⟩
  exact .inr ⟨_, [⟨1000000000000, by decide⟩], List.cons_ne_nil _ _, spells, fun _ _ => trivial,
    .cons lasts .nil, rfl⟩

end JobGate.Duration
