import JobGate.Settings.Duration
import Mathlib.Data.List.TakeWhile

/-!
# Cutting durations

A text is cut where letters begin and where they end. The cut goes over it round by round, and
every round takes some characters off its front (`rounds_segments`), so nothing is lost
(`Rounds.written`). Numbers without letters in front of units are cut as they were put together
(`segments_written`).
-/
namespace JobGate.Duration

def written (segments : List Segment) : List Char := segments.flatMap fun segment =>
  segment.1 ++ segment.2

def Unlettered (cs : List Char) : Prop := ∀ c ∈ cs, isAlphabetic c = false

instance : DecidablePred Unlettered := fun cs => List.decidableBAll _ cs

def Lettered (cs : List Char) : Prop := ∀ c ∈ cs, isAlphabetic c = true

instance : DecidablePred Lettered := fun cs => List.decidableBAll _ cs

/-- The text does not begin with a letter. -/
def Detached (cs : List Char) : Prop := ∀ c ∈ cs.head?, isAlphabetic c = false

variable {c : Char} {cs rest number unit : List Char} {others : List Segment}

theorem segments_unlettered (plain : isAlphabetic c = false)
    (cut : segments rest = (number, unit) :: others) :
    segments (c :: rest) = (c :: number, unit) :: others := by
  simp [segments, cut, plain]

theorem segments_lettered (letter : isAlphabetic c = true)
    (cut : segments rest = ([], unit) :: others) :
    segments (c :: rest) = ([], c :: unit) :: others := by
  simp [segments, cut, letter]

theorem number_of_detached (detached : Detached rest)
    (cut : segments rest = (number, unit) :: others) : number ≠ [] := by
  cases rest with
  | nil => cases cut
  | cons d rest =>
    have plain : isAlphabetic d = false := detached d rfl
    rcases later : segments rest with _ | ⟨⟨behind, letters⟩, more⟩
    · rw [segments, later] at cut
      simp [plain] at cut
      simp [← cut.1.1]
    · rw [segments_unlettered plain later] at cut
      cases cut
      exact List.cons_ne_nil _ _

/-- A letter in front of a number is a unit of its own. -/
theorem segments_letter (letter : isAlphabetic c = true) (detached : Detached rest) :
    segments (c :: rest) = ([], [c]) :: segments rest := by
  rcases cut : segments rest with _ | ⟨⟨number, unit⟩, others⟩
  · simp [segments, cut, letter]
  · have some : number ≠ [] := number_of_detached detached cut
    simp [segments, cut, letter, some]

theorem segments_unit (lettered : Lettered unit) (some : unit ≠ []) (detached : Detached rest) :
    segments (unit ++ rest) = ([], unit) :: segments rest := by
  induction unit with
  | nil => exact absurd rfl some
  | cons c unit ih =>
    have letter : isAlphabetic c = true := lettered c (.head _)
    cases unit with
    | nil => exact segments_letter letter detached
    | cons d unit =>
      have later := ih (fun e inside => lettered e (.tail _ inside)) (List.cons_ne_nil _ _)
      exact segments_lettered letter later

theorem segments_front (plain : Unlettered number) (lettered : Lettered unit) (some : unit ≠ [])
    (detached : Detached rest) :
    segments (number ++ (unit ++ rest)) = (number, unit) :: segments rest := by
  induction number with
  | nil => exact segments_unit lettered some detached
  | cons c number ih =>
    have later := ih fun d inside => plain d (.tail _ inside)
    exact segments_unlettered (plain c (.head _)) later

theorem segments_number (plain : Unlettered number) (some : number ≠ []) :
    segments number = [(number, [])] := by
  induction number with
  | nil => exact absurd rfl some
  | cons c number ih =>
    have here : isAlphabetic c = false := plain c (.head _)
    cases number with
    | nil => simp [segments, here]
    | cons d number =>
      have later := ih (fun e inside => plain e (.tail _ inside)) (List.cons_ne_nil _ _)
      exact segments_unlettered here later

/-- A round over a text: a number up to the first letter, the letters behind it, and what is left,
    which is less. Without letters nothing is left. -/
structure Round (cs number unit rest : List Char) : Prop where
  text : cs = number ++ (unit ++ rest)
  plain : Unlettered number
  lettered : Lettered unit
  detached : Detached rest
  ends : unit = [] → rest = []
  shorter : rest.length < cs.length

theorem detached_dropWhile (cs : List Char) : Detached (cs.dropWhile isAlphabetic) := by
  intro c first
  have stopped := List.head?_dropWhile_not isAlphabetic cs
  rw [Option.mem_def.mp first] at stopped
  exact stopped

theorem exists_round (some : cs ≠ []) : ∃ number unit rest, Round cs number unit rest := by
  have parts := List.takeWhile_append_dropWhile (p := (!isAlphabetic ·)) (l := cs)
  have plain : Unlettered (cs.takeWhile (!isAlphabetic ·)) := fun c inside => by
    simpa using List.mem_takeWhile_imp inside
  rcases tail : cs.dropWhile (!isAlphabetic ·) with _ | ⟨c, behind⟩
  · rw [tail, List.append_nil] at parts
    rw [parts] at plain
    exact ⟨cs, [], [], by simp, plain, nofun, nofun, fun _ => rfl, List.length_pos_iff.mpr some⟩
  · have letter : isAlphabetic c = true := by
      have stopped := List.head?_dropWhile_not (!isAlphabetic ·) cs
      rw [tail] at stopped
      simpa using stopped
    have unit := List.takeWhile_append_dropWhile (p := isAlphabetic) (l := c :: behind)
    have text : cs = cs.takeWhile (!isAlphabetic ·) ++ ((c :: behind).takeWhile isAlphabetic ++
        (c :: behind).dropWhile isAlphabetic) := by rw [unit, ← tail, parts]
    have taken : (c :: behind).takeWhile isAlphabetic ≠ [] := by simp [letter]
    refine ⟨_, _, _, text, plain, fun d inside => List.mem_takeWhile_imp inside,
      detached_dropWhile _, fun none => absurd none taken, ?_⟩
    have total := congrArg List.length text
    have positive := List.length_pos_iff.mpr taken
    rw [List.length_append, List.length_append] at total
    omega

theorem segments_round (round : Round cs number unit rest) (some : cs ≠ []) :
    segments cs = (number, unit) :: segments rest := by
  obtain ⟨rfl, plain, lettered, detached, ends, _⟩ := round
  by_cases none : unit = []
  · obtain rfl := ends none
    subst none
    rw [List.append_nil, List.append_nil] at some ⊢
    exact segments_number plain some
  · exact segments_front plain lettered none detached

/-- Round after round over a text, and the segments that they take off it. -/
inductive Rounds : List Char → List Segment → Prop where
  | done : Rounds [] []
  | round {cs number unit rest : List Char} {l : List Segment} : Round cs number unit rest →
      Rounds rest l → Rounds cs ((number, unit) :: l)

theorem rounds_segments (cs : List Char) : Rounds cs (segments cs) := by
  induction size : cs.length using Nat.strongRecOn generalizing cs with
  | ind size ih =>
    by_cases some : cs = []
    · subst some
      exact .done
    · obtain ⟨number, unit, rest, round⟩ := exists_round some
      rw [segments_round round some]
      exact .round round (ih rest.length (size ▸ round.shorter) rest rfl)

variable {l : List Segment}

theorem Rounds.written (rounds : Rounds cs l) : written l = cs := by
  induction rounds with
  | done => rfl
  | round round _ ih =>
    rw [Duration.written, List.flatMap_cons, ← Duration.written, ih, List.append_assoc,
      ← round.text]

theorem Rounds.unlettered (rounds : Rounds cs l) : ∀ segment ∈ l, Unlettered segment.1 := by
  induction rounds with
  | done => exact nofun
  | round round _ ih =>
    intro segment among
    rcases List.mem_cons.mp among with rfl | later
    · exact round.plain
    · exact ih segment later

theorem Rounds.length_le (rounds : Rounds cs l) : l.length ≤ cs.length := by
  induction rounds with
  | done => exact Nat.le_refl _
  | round round _ ih =>
    have shorter := round.shorter
    rw [List.length_cons]
    omega

/-- A number without letters, and a unit of letters. -/
structure WellCut (segment : Segment) : Prop where
  number : segment.1 ≠ []
  plain : Unlettered segment.1
  unit : segment.2 ≠ []
  lettered : Lettered segment.2

theorem detached_written (each : ∀ segment ∈ l, WellCut segment) :
    Detached (written l) := by
  cases l with
  | nil => exact nofun
  | cons segment l =>
    obtain ⟨some, plain, _⟩ := each segment (.head _)
    rcases number : segment.1 with _ | ⟨d, others⟩
    · exact absurd number some
    · intro c first
      rw [written, List.flatMap_cons, number] at first
      obtain rfl : d = c := by simpa using first
      exact plain d (number ▸ .head _)

theorem segments_written (each : ∀ segment ∈ l, WellCut segment) :
    segments (written l) = l := by
  induction l with
  | nil => rfl
  | cons segment l ih =>
    obtain ⟨_, plain, unit, lettered⟩ := each segment (.head _)
    have others : ∀ segment ∈ l, WellCut segment := fun other among => each other (.tail _ among)
    rw [written, List.flatMap_cons, ← written, List.append_assoc,
      segments_front plain lettered unit (detached_written others), ih others]

end JobGate.Duration
