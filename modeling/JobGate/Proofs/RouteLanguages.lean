import JobGate.Route
import Mathlib.Computability.Language
import Mathlib.Data.List.TakeWhile

/-!
# The paths that submit a job

Three languages of paths, and a request has a route just if it is made with a method that submits
and its path is in one of them (`ofRequest?_eq_some_iff`). The languages share no path, so it does
not matter in which order they are tried (`recognised_exactly`).
-/
namespace JobGate.Route

open scoped Computability

def Exactly (s : String) : Language Char := {s.toList}

/-- The texts of one character between two others. -/
def Range (first last : Char) : Language Char := {word | ∃ c, word = [c] ∧ first ≤ c ∧ c ≤ last}

def Letter : Language Char := Range 'a' 'z' + Range 'A' 'Z'
def IdCharacter : Language Char := Letter + (Range '0' '9' + Exactly "-")
/-- A letter, then letters, digits and hyphens, all of them ASCII. -/
def Identifier : Language Char := Letter * IdCharacter∗

def JobsPath : Language Char := Exactly "/v1/jobs"
def JobPath : Language Char := Exactly "/v1/job/" * Identifier
def PlanPath : Language Char := Exactly "/v1/job/" * (Identifier * Exactly "/plan")
def ValidatePath : Language Char := Exactly "/v1/validate/job"

/-- The paths that submit a job for a purpose. -/
def Paths : Route → Language Char
  | .register => JobsPath + JobPath
  | .plan => PlanPath
  | .validate => ValidatePath

/-- The patterns with the routes that they stand for. -/
def patterns : List (Language Char × Route) :=
  [(JobsPath, .register), (JobPath, .register), (PlanPath, .plan), (ValidatePath, .validate)]

open Classical in
/-- The route of the first pattern that a path matches. -/
noncomputable def firstMatch (tried : List (Language Char × Route)) (path : List Char) :
    Option Route :=
  (tried.find? fun pattern => path ∈ pattern.1).map (·.2)

theorem mem_exactly {s : String} {word : List Char} : word ∈ Exactly s ↔ word = s.toList := Iff.rfl

theorem mem_range {first last : Char} {word : List Char} :
    word ∈ Range first last ↔ ∃ c, word = [c] ∧ first ≤ c ∧ c ≤ last := Iff.rfl

theorem mem_letter {word : List Char} : word ∈ Letter ↔ ∃ c, word = [c] ∧ c.isAlpha = true := by
  rw [Letter, Language.mem_add, mem_range, mem_range, ← exists_or]
  refine exists_congr fun c => ?_
  rw [← and_or_left]
  refine and_congr_right fun _ => ?_
  have lower : c.isLower = true ↔ 'a' ≤ c ∧ c ≤ 'z' :=
    Bool.and_eq_true_iff.trans (and_congr decide_eq_true_iff decide_eq_true_iff)
  have upper : c.isUpper = true ↔ 'A' ≤ c ∧ c ≤ 'Z' := decide_eq_true_iff
  have either : c.isAlpha = true ↔ c.isUpper = true ∨ c.isLower = true := Bool.or_eq_true_iff
  rw [either, upper, lower, or_comm]

theorem mem_idCharacter {word : List Char} :
    word ∈ IdCharacter ↔ ∃ c, word = [c] ∧ isIdChar c = true := by
  have digit (c : Char) : c.isDigit = true ↔ '0' ≤ c ∧ c ≤ '9' := by
    simp [Char.isDigit, Char.le_def]
  rw [IdCharacter, Language.mem_add, Language.mem_add, mem_letter, mem_range, mem_exactly]
  constructor
  · rintro (⟨c, rfl, letter⟩ | ⟨c, rfl, range⟩ | rfl)
    · exact ⟨c, rfl, by simp [isIdChar, Char.isAlphanum, letter]⟩
    · exact ⟨c, rfl, by simp [isIdChar, Char.isAlphanum, (digit c).mpr range]⟩
    · exact ⟨'-', rfl, by decide⟩
  · rintro ⟨c, rfl, allowed⟩
    simp only [isIdChar, Char.isAlphanum, Bool.or_eq_true, beq_iff_eq] at allowed
    rcases allowed with (letter | number) | rfl
    · exact .inl ⟨c, rfl, letter⟩
    · exact .inr (.inl ⟨c, rfl, (digit c).mp number⟩)
    · exact .inr (.inr rfl)

theorem mem_kstar_idCharacter {word : List Char} :
    word ∈ IdCharacter∗ ↔ word.all isIdChar = true := by
  rw [Language.mem_kstar]
  constructor
  · rintro ⟨pieces, rfl, each⟩
    rw [List.all_flatten, List.all_eq_true]
    intro piece among
    obtain ⟨c, rfl, allowed⟩ := mem_idCharacter.mp (each piece among)
    simpa using allowed
  · intro allowed
    refine ⟨word.map ([·]), (List.flatMap_singleton' word).symm, fun piece among => ?_⟩
    obtain ⟨c, inside, rfl⟩ := List.mem_map.mp among
    exact mem_idCharacter.mpr ⟨c, rfl, List.all_eq_true.mp allowed c inside⟩

theorem mem_identifier {word : List Char} : word ∈ Identifier ↔ isId word = true := by
  rw [Identifier, Language.mem_mul]
  constructor
  · rintro ⟨first, letter, rest, others, rfl⟩
    obtain ⟨c, rfl, alphabetic⟩ := mem_letter.mp letter
    simpa [isId, alphabetic] using mem_kstar_idCharacter.mp others
  · intro valid
    cases word with
    | nil => cases valid
    | cons c rest =>
      rw [isId, Bool.and_eq_true] at valid
      exact ⟨[c], mem_letter.mpr ⟨c, rfl, valid.1⟩, rest, mem_kstar_idCharacter.mpr valid.2, rfl⟩

/-- Identifiers are made of the characters that the scan goes over. -/
theorem isIdChar_of_isId {word : List Char} (valid : isId word = true) :
    ∀ c ∈ word, isIdChar c = true := by
  cases word with
  | nil => exact nofun
  | cons c rest =>
    rw [isId, Bool.and_eq_true] at valid
    intro d inside
    rcases List.mem_cons.mp inside with rfl | inside
    · simp [isIdChar, Char.isAlphanum, valid.1]
    · exact List.all_eq_true.mp valid.2 d inside

theorem after?_eq_some_iff {front cs rest : List Char} :
    after? front cs = some rest ↔ cs = front ++ rest := by
  induction front generalizing cs with
  | nil => simp [after?]
  | cons p front ih =>
    cases cs with
    | nil => simp [after?]
    | cons c cs =>
      by_cases same : p = c
      · simp [after?, same, ih]
      · simp [after?, same, Ne.symm same]

/-- The path of a job ends behind its identifier, or with a plan. -/
theorem ofJobPath_eq_some_iff {cs : List Char} {route : Route} :
    ofJobPath cs = some route ↔
      (route = .register ∧ isId cs = true) ∨
        (route = .plan ∧ ∃ id, isId id = true ∧ cs = id ++ "/plan".toList) := by
  have scanned := List.takeWhile_append_dropWhile (p := isIdChar) (l := cs)
  constructor
  · intro found
    rw [ofJobPath] at found
    by_cases valid : isId (cs.takeWhile isIdChar) = true
    · rcases rest : cs.dropWhile isIdChar with _ | ⟨c, others⟩
      · rw [rest, List.append_nil] at scanned
        rw [scanned] at valid
        have : some Route.register = some route := by simpa [scanned, valid, rest] using found
        exact .inl ⟨(Option.some.inj this).symm, valid⟩
      · rw [rest] at scanned
        by_cases plan : c :: others = "/plan".toList
        · have : some Route.plan = some route := by simpa [valid, rest, plan] using found
          exact .inr ⟨(Option.some.inj this).symm, _, valid, plan ▸ scanned.symm⟩
        · have other : (c :: others == "/plan".toList) = false := beq_false_of_ne plan
          simp only [rest, valid, other, Bool.not_true, Bool.false_eq_true, if_false] at found
          cases found
    · simp [valid] at found
  · have stop : isIdChar '/' = false := by decide
    rintro (⟨rfl, valid⟩ | ⟨rfl, id, valid, rfl⟩)
    · have whole : cs.takeWhile isIdChar = cs :=
        List.takeWhile_eq_self_iff.mpr (isIdChar_of_isId valid)
      have none : cs.dropWhile isIdChar = [] :=
        List.dropWhile_eq_nil_iff.mpr (isIdChar_of_isId valid)
      simp [ofJobPath, whole, none, valid]
    · have front : (id ++ "/plan".toList).takeWhile isIdChar = id := by
        rw [List.takeWhile_append_of_pos (isIdChar_of_isId valid)]
        simp [stop]
      have back : (id ++ "/plan".toList).dropWhile isIdChar = "/plan".toList := by
        rw [List.dropWhile_append_of_pos (isIdChar_of_isId valid)]
        simp [stop]
      rw [ofJobPath, front, back]
      simp [valid]

theorem mem_jobPath {path : List Char} :
    path ∈ JobPath ↔ ∃ id, isId id = true ∧ path = "/v1/job/".toList ++ id := by
  simp only [JobPath, Language.mem_mul, mem_exactly, mem_identifier, exists_eq_left]
  exact exists_congr fun id => and_congr_right fun _ => eq_comm

theorem mem_planPath {path : List Char} :
    path ∈ PlanPath ↔
      ∃ id, isId id = true ∧ path = "/v1/job/".toList ++ (id ++ "/plan".toList) := by
  simp only [PlanPath, Language.mem_mul, mem_exactly, mem_identifier, exists_eq_left]
  constructor
  · rintro ⟨_, ⟨id, valid, rfl⟩, rfl⟩
    exact ⟨id, valid, rfl⟩
  · rintro ⟨id, valid, rfl⟩
    exact ⟨_, ⟨id, valid, rfl⟩, rfl⟩

/-- A path of one job is neither of the two that are fixed. -/
theorem ne_fixed {path : String} {rest : List Char}
    (below : path.toList = "/v1/job/".toList ++ rest) :
    path ≠ "/v1/jobs" ∧ path ≠ "/v1/validate/job" := by
  constructor
  · rintro rfl
    simp at below
  · rintro rfl
    simp at below

theorem ofPath_below {path : String} {rest : List Char}
    (below : path.toList = "/v1/job/".toList ++ rest) : ofPath path = ofJobPath rest := by
  obtain ⟨jobs, validate⟩ := ne_fixed below
  rw [ofPath, if_neg (by simpa using jobs), if_neg (by simpa using validate),
    after?_eq_some_iff.mpr below, Option.bind_some]

theorem ofPath_eq_some_iff {path : String} {route : Route} :
    ofPath path = some route ↔ path.toList ∈ Paths route := by
  constructor
  · intro found
    by_cases jobs : path = "/v1/jobs"
    · subst jobs
      obtain rfl : Route.register = route := Option.some.inj found
      exact .inl rfl
    · by_cases validate : path = "/v1/validate/job"
      · subst validate
        obtain rfl : Route.validate = route := Option.some.inj found
        rfl
      · rw [ofPath, if_neg (by simpa using jobs), if_neg (by simpa using validate)] at found
        obtain ⟨rest, below, found⟩ := Option.bind_eq_some_iff.mp found
        rw [after?_eq_some_iff] at below
        rcases ofJobPath_eq_some_iff.mp found with ⟨rfl, valid⟩ | ⟨rfl, id, valid, rfl⟩
        · exact .inr (mem_jobPath.mpr ⟨rest, valid, below⟩)
        · exact mem_planPath.mpr ⟨id, valid, below⟩
  · intro among
    cases route with
    | register =>
      rcases among with jobs | job
      · obtain rfl : path = "/v1/jobs" := String.toList_inj.mp jobs
        rfl
      · obtain ⟨id, valid, below⟩ := mem_jobPath.mp job
        rw [ofPath_below below, ofJobPath_eq_some_iff]
        exact .inl ⟨rfl, valid⟩
    | plan =>
      obtain ⟨id, valid, below⟩ := mem_planPath.mp among
      rw [ofPath_below below, ofJobPath_eq_some_iff]
      exact .inr ⟨rfl, id, valid, rfl⟩
    | validate =>
      obtain rfl : path = "/v1/validate/job" := String.toList_inj.mp among
      rfl

/-- No path stands for two routes. -/
theorem paths_disjoint {path : List Char} {route other : Route} (here : path ∈ Paths route)
    (there : path ∈ Paths other) : route = other := by
  rw [← String.toList_ofList (l := path)] at here there
  have one := ofPath_eq_some_iff.mpr here
  have two := ofPath_eq_some_iff.mpr there
  exact Option.some.inj (one.symm.trans two)

theorem ofRequest?_eq_some_iff {method path : String} {route : Route} :
    ofRequest? method path = some route ↔
      (method = "PUT" ∨ method = "POST") ∧ path.toList ∈ Paths route := by
  have methods : submits method = true ↔ method = "PUT" ∨ method = "POST" := by simp [submits]
  rw [← ofPath_eq_some_iff, ← methods, ofRequest?]
  by_cases given : submits method = true
  · simp [given]
  · simp [given]

theorem mem_patterns {path : List Char} {route : Route} :
    (∃ language, (language, route) ∈ patterns ∧ path ∈ language) ↔ path ∈ Paths route := by
  cases route with
  | register =>
    rw [Paths, Language.mem_add]
    simp [patterns]
  | plan => simp [patterns, Paths]
  | validate => simp [patterns, Paths]

open Classical in
/-- Whatever the order in which they are tried, the patterns find the one route of a path. -/
theorem firstMatch_eq_some_iff {tried : List (Language Char × Route)} (order : tried.Perm patterns)
    {path : List Char} {route : Route} :
    firstMatch tried path = some route ↔ path ∈ Paths route := by
  have found_among {found : Language Char × Route}
      (found_first : tried.find? (fun pattern => path ∈ pattern.1) = some found) :
      path ∈ Paths found.2 := by
    have member := order.subset (List.mem_of_find?_eq_some found_first)
    have matched : path ∈ found.1 := by simpa using List.find?_some found_first
    exact mem_patterns.mp ⟨found.1, member, matched⟩
  constructor
  · intro first
    obtain ⟨found, found_first, rfl⟩ := Option.map_eq_some_iff.mp first
    exact found_among found_first
  · intro among
    obtain ⟨language, member, inside⟩ := mem_patterns.mpr among
    rcases searched : tried.find? (fun pattern => path ∈ pattern.1) with _ | found
    · have missed := List.find?_eq_none.mp searched _ (order.symm.subset member)
      exact absurd inside (by simpa using missed)
    · rw [firstMatch, searched, Option.map_some, paths_disjoint (found_among searched) among]

/-- A request has a route just if its method is one of two and its path is in the language of the
    route, and none otherwise. The languages are disjoint, and trying the patterns gives the same
    route in whatever order. -/
theorem recognised_exactly (method path : String) :
    (∀ route, ofRequest? method path = some route ↔
        (method = "PUT" ∨ method = "POST") ∧ path.toList ∈ Paths route) ∧
      (ofRequest? method path = none ↔
        ¬ ((method = "PUT" ∨ method = "POST") ∧ ∃ route, path.toList ∈ Paths route)) ∧
      (∀ route other, path.toList ∈ Paths route → path.toList ∈ Paths other → route = other) ∧
      ∀ tried, tried.Perm patterns → ofRequest? method path =
        if method = "PUT" ∨ method = "POST" then firstMatch tried path.toList else none := by
  refine ⟨fun route => ofRequest?_eq_some_iff, ?_, fun route other => paths_disjoint, ?_⟩
  · rw [Option.eq_none_iff_forall_ne_some]
    simp only [ne_eq, ofRequest?_eq_some_iff, not_and, not_exists]
    exact forall_comm
  · intro tried order
    ext route
    rw [ofRequest?_eq_some_iff]
    by_cases given : method = "PUT" ∨ method = "POST"
    · rw [if_pos given, firstMatch_eq_some_iff order]
      simp [given]
    · simp [given]

example : ofRequest? "POST" "/v1/job/web-2/plan" = some .plan := by decide +kernel

end JobGate.Route
