import JobGate.Proofs.DurationGrammar
import Mathlib.Data.List.Perm.Basic

/-!
# Sums of durations

One duration behind another is the duration of both together, or out of range if there is none
(`concatenation_adds`): the segments of both are added up, and only their sum is compared with what
fits. For the same reason segments may change places.
-/
namespace JobGate.Duration

variable {a b : String} {l la lb : List Segment} {parts : List Duration} {x y : Duration}

theorem written_append (la lb : List Segment) : written (la ++ lb) = written la ++ written lb :=
  List.flatMap_append

theorem total_append (xs ys : List Duration) : total (xs ++ ys) = total xs + total ys := by
  rw [total, List.map_append, List.sum_append, total, total]

theorem not_blank_of_numeric {c : Char} (front : c.isDigit = true ∨ c = '.') :
    isBlank c = false := by
  rcases front with digit | rfl
  · have digits : Digits [c] := fun d inside => List.mem_singleton.mp inside ▸ digit
    exact (solid_digits digits c (.head _)).1
  · decide

/-- No character of a kind stands in front of a number if a text begins with the number. -/
theorem nil_of_numeric {front rest : List Char} (numeric : Numeric (front ++ rest))
    (other : ∀ c ∈ front, ¬ (c.isDigit = true ∨ c = '.')) : front = [] := by
  cases front with
  | nil => rfl
  | cons c front =>
    obtain ⟨d, behind, same, given⟩ := numeric
    obtain rfl : c = d := (List.cons.inj same).1
    exact absurd given (other c (.head _))

/-- A text that begins with a number has neither blanks nor plus signs in front of its segments. -/
theorem written_of_numeric (spells : Spells b l) (numeric : Numeric b.toList) :
    ∃ after, b.toList = written l ++ after ∧ Blanks after ∧ Numeric (written l) := by
  obtain ⟨before, signs, after, same, blankBefore, blankAfter, pluses, _⟩ := spells
  have blank {c : Char} (here : isBlank c = true) : ¬ (c.isDigit = true ∨ c = '.') := by
    intro front
    rw [not_blank_of_numeric front] at here
    cases here
  rw [same, List.append_assoc] at numeric
  obtain rfl : before = [] := nil_of_numeric numeric fun c inside => blank (blankBefore c inside)
  rw [List.nil_append, List.append_assoc] at numeric
  obtain rfl : signs = [] := nil_of_numeric numeric fun c inside => by
    rw [pluses c inside]
    decide
  rw [List.nil_append] at numeric
  refine ⟨after, same, blankAfter, ?_⟩
  rcases text : written l with _ | ⟨c, rest⟩
  · rw [text, List.nil_append, ← List.append_nil after] at numeric
    obtain rfl : after = [] := nil_of_numeric numeric fun c inside => blank (blankAfter c inside)
    exact numeric
  · obtain ⟨d, behind, begins, front⟩ := numeric
    rw [text, List.cons_append] at begins
    obtain ⟨rfl, _⟩ := List.cons.inj begins
    exact ⟨c, rest, rfl, front⟩

/-- There are no blanks behind a text that does not end with one. -/
theorem nil_of_ends {front after : List Char} (blank : Blanks after)
    (ends : ∀ c ∈ (front ++ after).getLast?, isBlank c = false) : after = [] := by
  by_contra filled
  have last : (front ++ after).getLast? = some (after.getLast filled) := by
    rw [List.getLast?_append_of_ne_nil _ filled, List.getLast?_eq_some_getLast filled]
  have here := ends _ last
  rw [blank _ (List.getLast_mem filled)] at here
  cases here

theorem spells_append (spellsA : Spells a la) (spellsB : Spells b lb)
    (ends : ∀ c ∈ a.toList.getLast?, isBlank c = false) (numeric : Numeric b.toList) :
    Spells (a ++ b) (la ++ lb) := by
  obtain ⟨before, signs, trailing, sameA, blankBefore, blankTrailing, pluses, notNegative⟩ :=
    spellsA
  obtain ⟨after, sameB, blankAfter, begins⟩ := written_of_numeric spellsB numeric
  rw [sameA] at ends
  obtain rfl : trailing = [] := nil_of_ends blankTrailing ends
  refine ⟨before, signs, after, ?_, blankBefore, blankAfter, pluses, ?_⟩
  · rw [String.toList_append, sameA, sameB, written_append]
    simp only [List.append_assoc, List.append_nil]
  · rw [written_append, ← List.append_assoc]
    rcases front : signs ++ written la with _ | ⟨c, rest⟩
    · obtain ⟨c, rest, text, digit⟩ := begins
      rw [text]
      rintro minus
      obtain rfl : c = '-' := Option.some.inj minus
      simp at digit
    · rw [front] at notNegative
      exact notNegative

theorem unsigned_of_numeric {sign rest : List Char} {negative : Bool} (signed : Sign sign negative)
    (numeric : Numeric (sign ++ rest)) : sign = [] := by
  refine nil_of_numeric numeric fun c inside => ?_
  cases signed with
  | none => cases inside
  | plus =>
    rw [List.mem_singleton.mp inside]
    decide
  | minus =>
    rw [List.mem_singleton.mp inside]
    decide

theorem digitsValue_zero (cs : List Char) : digitsValue ('0' :: cs) = digitsValue cs := rfl

/-- A number that begins with a digit or its point stays the same with a zero in front of it. -/
theorem number_behind_zero {cs : List Char} {value : Option Binary64} (plain : Unlettered cs)
    (numeric : Numeric cs) (number : Number cs value) : Number ('0' :: cs) value := by
  obtain ⟨sign, negative, digits, whole, fraction, rfl, signed, decimal, rfl⟩ :=
    decimal_of_parseNumber ((parseNumber_ok_iff plain).mpr number)
  have zero : Char.isDigit '0' = true := rfl
  obtain rfl : sign = [] := unsigned_of_numeric signed numeric
  cases signed
  have longer : Decimal ('0' :: digits) ('0' :: whole) fraction := by
    cases decimal with
    | whole only _ => exact .whole (List.forall_mem_cons.mpr ⟨zero, only⟩) (List.cons_ne_nil _ _)
    | pointed only behind _ =>
      exact .pointed (List.forall_mem_cons.mpr ⟨zero, only⟩) behind (List.cons_ne_nil _ _)
  have written := Number.decimal .none longer .none
  rwa [List.append_nil, Int.zero_sub, List.cons_append, digitsValue_zero] at written

theorem timed_behind_zero (timed : Timed l parts) (numeric : Numeric (written l)) :
    ∃ longer, Timed longer parts ∧ written longer = '0' :: written l := by
  cases timed with
  | nil =>
    obtain ⟨_, _, none, _⟩ := numeric
    cases none
  | @cons segment part l parts given others =>
    obtain ⟨number, unit⟩ := segment
    obtain ⟨plain, lasts⟩ := given
    obtain ⟨sign, _, digits, _, _, rfl, signed, decimal⟩ := decimal_of_lasts plain lasts
    have front : Numeric (sign ++ (digits ++ (unit ++ written l))) := by
      simpa [written] using numeric
    obtain rfl : sign = [] := unsigned_of_numeric signed front
    rw [List.nil_append] at plain lasts
    have longer : Unlettered ('0' :: digits) := List.forall_mem_cons.mpr ⟨by decide, plain⟩
    exact ⟨('0' :: digits, unit) :: l, .cons ⟨longer, lasts.congr fun value number =>
      number_behind_zero plain decimal.numeric number⟩ others, rfl⟩

theorem parse_append (readA : parse a = .ok x) (readB : parse b = .ok y)
    (ends : ∀ c ∈ a.toList.getLast?, isBlank c = false) (numeric : Numeric b.toList)
    (notZero : ¬ BareZero b) : parse (a ++ b) = inRange (x.nanos + y.nanos) := by
  rcases parse_ok_iff.mp readB with ⟨bare, _⟩ | ⟨lb, partsB, spellsB, timedB, sumB⟩
  · exact absurd bare notZero
  rcases parse_ok_iff.mp readA with ⟨bare, rfl⟩ | ⟨la, partsA, spellsA, timedA, sumA⟩
  · -- the zero has no unit of its own: it is one more digit of the number behind it
    obtain ⟨before, trailing, sameA, blankBefore, blankTrailing⟩ := bare
    rw [sameA] at ends
    obtain rfl : trailing = [] := nil_of_ends blankTrailing ends
    obtain ⟨after, sameB, blankAfter, begins⟩ := written_of_numeric spellsB numeric
    obtain ⟨longer, timed, text⟩ := timed_behind_zero timedB begins
    have spells : Spells (a ++ b) longer := by
      refine ⟨before, [], after, ?_, blankBefore, blankAfter, nofun, ?_⟩
      · rw [String.toList_append, sameA, sameB, text]
        simp
      · rw [text]
        exact nofun
    rw [parse_of_spells spells timed, sumB, zero, Nat.zero_add]
  · rw [parse_of_spells (spells_append spellsA spellsB ends numeric)
      (List.rel_append timedA timedB), total_append, sumA, sumB]

theorem parse_perm {s t : String} {l l' : List Segment} (timed : Timed l parts)
    (spells : Spells s l) (places : l'.Perm l) (other : Spells t l') : parse t = parse s := by
  obtain ⟨moved, timed', same⟩ := List.perm_comp_forall₂ places timed
  rw [parse_of_spells spells timed, parse_of_spells other timed', total, total,
    (same.map nanos).sum_nat]

/-- What is read from two texts, the second one behind the first, is the sum of what is read from
    each. And segments that change places are read as before. -/
theorem concatenation_adds :
    (∀ (a b : String) (x y : Duration), parse a = .ok x → parse b = .ok y →
      (∀ c ∈ a.toList.getLast?, isBlank c = false) → Numeric b.toList → ¬ BareZero b →
      (∀ d : Duration, d.nanos = x.nanos + y.nanos → parse (a ++ b) = .ok d) ∧
        ((∀ d : Duration, d.nanos ≠ x.nanos + y.nanos) →
          parse (a ++ b) = .error .outOfRange)) ∧
    ∀ (s t : String) (l l' : List Segment) (parts : List Duration), Timed l parts → Spells s l →
      l'.Perm l → Spells t l' → parse t = parse s := by
  constructor
  · intro a b x y readA readB ends numeric notZero
    rw [parse_append readA readB ends numeric notZero]
    exact ⟨fun d sum => inRange_eq_ok_iff.mpr sum, fun none => inRange_eq_error_iff.mpr none⟩
  · intro s t l l' parts timed spells places other
    exact parse_perm timed spells places other

theorem minute_and_seconds_add : parse ("1m" ++ "30s") = .ok ⟨90000000000, by decide⟩ ∧
    parse "30s1m" = parse "1m30s" := by
  have minute : parse "1m" = .ok ⟨60000000000, by decide⟩ := by decide +kernel
  have seconds : parse "30s" = .ok ⟨30000000000, by decide⟩ := by decide +kernel
  have notZero : ¬ BareZero "30s" := by
    intro bare
    rw [parse_zero bare] at seconds
    exact absurd seconds (by decide)
  have timed : Timed [(['1'], ['m']), ("30".toList, ['s'])]
      [⟨60000000000, by decide⟩, ⟨30000000000, by decide⟩] := by
    have first : Unlettered ['1'] := by decide
    have second : Unlettered "30".toList := by decide
    exact .cons ⟨first, (ofSegment_ok_iff first).mp (by decide +kernel)⟩
      (.cons ⟨second, (ofSegment_ok_iff second).mp (by decide +kernel)⟩ .nil)
  have spells : Spells "1m30s" [(['1'], ['m']), ("30".toList, ['s'])] :=
    ⟨[], [], [], rfl, nofun, nofun, nofun, by decide⟩
  have other : Spells "30s1m" [("30".toList, ['s']), (['1'], ['m'])] :=
    ⟨[], [], [], rfl, nofun, nofun, nofun, by decide⟩
  have ends : ∀ c ∈ "1m".toList.getLast?, isBlank c = false := by
    intro c last
    obtain rfl : 'm' = c := Option.some.inj last
    decide
  exact ⟨(concatenation_adds.1 "1m" "30s" _ _ minute seconds ends
      ⟨'3', _, rfl, .inl rfl⟩ notZero).1 _ rfl,
    concatenation_adds.2 _ _ _ _ _ timed spells (.swap _ _ _) other⟩

/-- A blank behind a bare zero is no part of it. Behind another duration the zero has no unit. -/
theorem zero_without_unit : parse "5s" = .ok ⟨5000000000, by decide⟩ ∧ parse "0 " = .ok .zero ∧
    "0 ".toList.head? = some '0' ∧ "0 " ≠ "0" ∧ parse ("5s" ++ "0 ") = .error .noUnit := by
  refine ⟨by decide +kernel, by decide +kernel, by decide, by decide, by decide +kernel⟩

end JobGate.Duration
