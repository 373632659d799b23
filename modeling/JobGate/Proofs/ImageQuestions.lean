import JobGate.ImageCheck
import Mathlib.Data.List.Forall2
import Mathlib.Data.Prod.Lex

/-!
Which images are asked about. `Job.NamesAt` says at which places a job names an image, whatever else
stands in it; the images that are checked are those that stand at such places, in the order of the
document (`Job.images_inOrder`). The verifier is asked about one after another, up to the first that
it rejects (`Verifier.walk`). Groups and tasks that name no image can be inserted anywhere: neither
the questions nor the verdict change (`images_asked_exactly`).
-/
namespace JobGate

variable {σ ι κ α β : Type}

/-- The values that stand at places: one for each place, from the first place to the last. -/
def InOrder (before : ι → ι → Prop) (stands : ι → α → Prop) (values : List α) : Prop :=
  ∃ places : List ι, places.Pairwise before ∧ (∀ place, place ∈ places ↔ ∃ a, stands place a) ∧
    List.Forall₂ stands places values

namespace InOrder

variable {before : ι → ι → Prop} {stands stands' : ι → α → Prop} {as bs : List α}

theorem nil (nowhere : ∀ place a, ¬ stands place a) : InOrder before stands [] :=
  ⟨[], .nil, by simp [nowhere], .nil⟩

theorem congr (same : ∀ place a, stands place a ↔ stands' place a)
    (ordered : InOrder before stands as) : InOrder before stands' as := by
  obtain rfl : stands = stands' := funext₂ fun place a => propext (same place a)
  exact ordered

theorem append (first : InOrder before stands as) (second : InOrder before stands' bs)
    (apart : ∀ i j a b, stands i a → stands' j b → before i j) :
    InOrder before (fun i a => stands i a ∨ stands' i a) (as ++ bs) := by
  obtain ⟨front, sorted, all, each⟩ := first
  obtain ⟨back, sorted', all', each'⟩ := second
  refine ⟨front ++ back, List.pairwise_append.mpr ⟨sorted, sorted', ?_⟩, ?_, ?_⟩
  · intro i there j there'
    obtain ⟨a, here⟩ := (all i).mp there
    obtain ⟨b, later⟩ := (all' j).mp there'
    exact apart i j a b here later
  · intro i
    rw [List.mem_append, all, all', ← exists_or]
  · exact List.rel_append (each.imp fun _ _ => .inl) (each'.imp fun _ _ => .inr)

theorem map {after : κ → κ → Prop} (f : ι → κ) (mono : ∀ i j, before i j → after (f i) (f j))
    (ordered : InOrder before stands as) :
    InOrder after (fun k a => ∃ i, f i = k ∧ stands i a) as := by
  obtain ⟨places, sorted, all, each⟩ := ordered
  refine ⟨places.map f, List.pairwise_map.mpr (sorted.imp fun {i j} => mono i j), ?_, ?_⟩
  · intro k
    simp only [List.mem_map, all]
    constructor
    · rintro ⟨i, ⟨a, there⟩, rfl⟩
      exact ⟨a, i, rfl, there⟩
    · rintro ⟨a, i, rfl, there⟩
      exact ⟨i, ⟨a, there⟩, rfl⟩
  · exact List.forall₂_map_left_iff.mpr (each.imp fun i _ there => ⟨i, rfl, there⟩)

theorem toList (value : Option α) :
    InOrder (· < ·) (fun (i : Nat) a => i = 0 ∧ value = some a) value.toList := by
  cases value with
  | none => exact nil (by simp)
  | some a => exact ⟨[0], List.pairwise_singleton _ _, by simp, .cons ⟨rfl, rfl⟩ .nil⟩

theorem filterMap (f : α → Option β) (xs : List α) :
    InOrder (· < ·) (fun (i : Nat) b => ∃ a, xs[i]? = some a ∧ f a = some b) (xs.filterMap f) := by
  induction xs with
  | nil => exact nil (by simp)
  | cons x rest ih =>
    -- the first item stands at the first place, all others move one place on
    have both := (toList (f x)).append
      (ih.map Nat.succ fun i j earlier => Nat.succ_lt_succ earlier)
      (by
        rintro _ _ _ _ ⟨rfl, _⟩ ⟨j, rfl, _⟩
        exact j.succ_pos)
    have joined : (x :: rest).filterMap f = (f x).toList ++ rest.filterMap f := by
      cases made : f x <;> simp [made]
    rw [joined]
    refine both.congr fun i b => ?_
    cases i <;> simp

theorem flatMap {stands : α → ι → β → Prop} {f : α → List β}
    (each : ∀ a, InOrder before (stands a) (f a)) (xs : List α) :
    InOrder (Prod.Lex (· < ·) before)
      (fun (place : Nat × ι) b => ∃ a, xs[place.1]? = some a ∧ stands a place.2 b)
      (xs.flatMap f) := by
  induction xs with
  | nil => exact nil (by simp)
  | cons x rest ih =>
    -- places are compared by the item first, so all places in the first item come before
    have first : ∀ i j, before i j → Prod.Lex (· < ·) before ((0 : Nat), i) (0, j) :=
      fun i j earlier => .right 0 earlier
    have later : ∀ p q : Nat × ι, Prod.Lex (· < ·) before p q →
        Prod.Lex (· < ·) before (p.1 + 1, p.2) (q.1 + 1, q.2) := by
      rintro _ _ (⟨_, _, less⟩ | ⟨_, earlier⟩)
      · exact .left _ _ (Nat.succ_lt_succ less)
      · exact .right _ earlier
    have both := ((each x).map (fun i => ((0 : Nat), i)) first).append
      (ih.map (fun p => (p.1 + 1, p.2)) later)
      (by
        rintro _ _ _ _ ⟨i, rfl, _⟩ ⟨p, rfl, _⟩
        exact .left _ _ p.1.succ_pos)
    refine both.congr fun place b => ?_
    obtain ⟨n, i⟩ := place
    cases n <;> simp

end InOrder

/-! ## The images of a job -/

/-- A task of the docker driver whose configuration names the image. -/
inductive Json.Runs : Json → String → Prop where
  | intro {task config : Members} {image : String}
      (driver : task.get? "Driver" = some (.string "docker"))
      (configured : task.get? "Config" = some (.object config))
      (named : config.get? "image" = some (.string image)) : Runs (.object task) image

/-- The job names the image at a place: in this one of its groups, in this one of the tasks. -/
inductive Job.NamesAt (job : Job) : Nat × Nat → String → Prop where
  | intro {groups tasks : List Json} {group : Members} {task : Json} {g t : Nat} {image : String}
      (grouped : job.members.get? "TaskGroups" = some (.array groups))
      (among : groups[g]? = some (.object group))
      (listed : group.get? "Tasks" = some (.array tasks))
      (there : tasks[t]? = some task) (runs : task.Runs image) : NamesAt job (g, t) image

namespace Json

/-- The items of the list at a key of an object; none if there is no such list. -/
def listed (key : String) (v : Json) : List Json := ((v.field? key).bind array?).getD []

/-- The image that a docker task names. -/
def dockerImage? (v : Json) : Option String :=
  (v.object?.map Task.mk).bind fun task => if task.driver? = some imageDriver then task.image? else none

theorem string?_eq_some_iff {v : Json} {s : String} : v.string? = some s ↔ v = .string s := by
  cases v <;> simp [string?]

theorem field?_eq_some_iff {key : String} {v w : Json} :
    v.field? key = some w ↔ ∃ members, v = .object members ∧ Members.get? key members = some w := by
  cases v <;> simp [field?]

theorem listed_eq {key : String} {members : Members} {items : List Json}
    (there : members.get? key = some (.array items)) : (object members).listed key = items := by
  simp [listed, field?, there, array?]

theorem getElem?_listed_iff {key : String} {v a : Json} {i : Nat} :
    (v.listed key)[i]? = some a ↔ ∃ members items, v = .object members ∧
      Members.get? key members = some (.array items) ∧ items[i]? = some a := by
  constructor
  · intro there
    cases v with
    | object members =>
      rcases found : Members.get? key members with _ | w
      · simp [listed, field?, found] at there
      · cases w with
        | array items => exact ⟨members, items, rfl, found, by simpa [listed_eq found] using there⟩
        | _ => simp [listed, field?, found, array?] at there
    | _ => simp [listed, field?] at there
  · rintro ⟨members, items, rfl, found, there⟩
    rw [listed_eq found, there]

theorem dockerImage?_eq_some_iff {v : Json} {image : String} :
    v.dockerImage? = some image ↔ v.Runs image := by
  constructor
  · intro names
    cases v with
    | object task =>
      simp only [dockerImage?, object?, Option.map_some, Option.bind_some,
        Option.ite_none_right_eq_some, Task.driver?, Task.image?, Task.config?,
        Option.bind_eq_some_iff, string?_eq_some_iff, field?_eq_some_iff] at names
      obtain ⟨⟨_, driver, rfl⟩, _, ⟨_, configured, config, rfl, named⟩, rfl⟩ := names
      exact .intro driver configured named
    | _ => cases names
  · rintro ⟨driver, configured, named⟩
    simp [dockerImage?, object?, Task.driver?, driver, string?, imageDriver, Task.image?,
      Task.config?, configured, field?, named]

end Json

namespace Job

theorem images_eq (job : Job) :
    job.images = (job.toJson.listed "TaskGroups").flatMap fun group =>
      (group.listed "Tasks").filterMap Json.dockerImage? := by
  rw [images, tasks, List.filter_flatMap, List.filterMap_flatMap]
  refine List.flatMap_congr fun group _ => ?_
  rw [tasksOfGroup, List.filterMap_filter, List.filterMap_filterMap]
  simp only [decide_eq_true_eq]
  rfl

theorem images_inOrder (job : Job) :
    InOrder (Prod.Lex (· < ·) (· < ·)) job.NamesAt job.images := by
  rw [images_eq]
  refine (InOrder.flatMap (fun group => InOrder.filterMap Json.dockerImage? (group.listed "Tasks"))
    (job.toJson.listed "TaskGroups")).congr fun place image => ?_
  obtain ⟨g, t⟩ := place
  simp only [Json.getElem?_listed_iff, Json.dockerImage?_eq_some_iff]
  constructor
  · rintro ⟨_, ⟨members, groups, same, grouped, among⟩, task,
      ⟨group, tasks, rfl, listed, there⟩, runs⟩
    obtain rfl := Json.object.inj same
    exact .intro grouped among listed there runs
  · rintro ⟨grouped, among, listed, there, runs⟩
    exact ⟨_, ⟨_, _, rfl, grouped, among⟩, _, ⟨_, _, rfl, listed, there⟩, runs⟩

end Job

/-! ## Questions -/

structure Verification where
  image : String
  answer : Except Failure Unit

/-- Images are asked about in order, up to the first that is rejected; the verdict warns about this
    one, with all messages of the failure, and never holds an error. -/
inductive Walk (images : List String) : List Verification → Verdict → Prop where
  | passed {asked : List Verification} (all : asked.map (·.image) = images)
      (accepted : ∀ v ∈ asked, v.answer = .ok ()) : Walk images asked ⟨[], ⟨[]⟩⟩
  | stopped (earlier : List Verification) {image : String} {unasked : List String}
      {failure : Failure} (order : images = earlier.map (·.image) ++ image :: unasked)
      (accepted : ∀ v ∈ earlier, v.answer = .ok ()) :
      Walk images (earlier ++ [⟨image, .error failure⟩])
        ⟨[String.intercalate ": " failure.chain], ⟨[]⟩⟩

theorem Walk.cons {images : List String} {asked : List Verification} {verdict : Verdict}
    (walk : Walk images asked verdict) (image : String) :
    Walk (image :: images) (⟨image, .ok ()⟩ :: asked) verdict := by
  cases walk with
  | passed all accepted =>
    exact .passed (by rw [List.map_cons, all]) (List.forall_mem_cons.mpr ⟨rfl, accepted⟩)
  | stopped earlier order accepted =>
    exact .stopped (⟨image, .ok ()⟩ :: earlier) (by rw [order]; rfl)
      (List.forall_mem_cons.mpr ⟨rfl, accepted⟩)

namespace Verifier

/-- The verifications of images in order, up to the first that is rejected. -/
def verifications (verifier : Verifier σ) : List String → σ → List Verification
  | [], _ => []
  | image :: rest, s =>
    match verifier.verify image s with
    | (.ok (), t) => ⟨image, .ok ()⟩ :: verifications verifier rest t
    | (.error failure, _) => [⟨image, .error failure⟩]

/-- The verifier that also writes down its verifications. -/
def watched (verifier : Verifier σ) : Verifier (σ × List Verification) where
  verify image w := ((verifier.verify image w.1).1, (verifier.verify image w.1).2,
    w.2 ++ [⟨image, (verifier.verify image w.1).1⟩])

/-- Watching changes neither the rejection nor the state that is left. -/
theorem firstRejection_watched (verifier : Verifier σ) (images : List String) (s : σ)
    (log : List Verification) :
    verifier.watched.firstRejection images (s, log) =
      ((verifier.firstRejection images s).1, (verifier.firstRejection images s).2,
        log ++ verifier.verifications images s) := by
  induction images generalizing s log with
  | nil => simp [firstRejection, verifications]
  | cons image rest ih =>
    rcases asked : verifier.verify image s with ⟨failure | ⟨⟩, t⟩
    · simp [firstRejection, verifications, watched, asked]
    · have later := ih t (log ++ [⟨image, .ok ()⟩])
      simp only [watched] at later
      simp [firstRejection, verifications, watched, asked, later]

/-- The verdict on a rejection, or on none. -/
def verdictOn : Option Failure → Verdict
  | none => Verdict.clean
  | some failure => ⟨[failure.fullText], Causes.none⟩

theorem walk (verifier : Verifier σ) (images : List String) (s : σ) :
    Walk images (verifier.verifications images s)
      (verdictOn (verifier.firstRejection images s).1) := by
  induction images generalizing s with
  | nil => exact .passed rfl nofun
  | cons image rest ih =>
    rcases asked : verifier.verify image s with ⟨failure | ⟨⟩, t⟩
    · simp only [firstRejection, verifications, asked]
      exact .stopped [] rfl nofun
    · simpa [firstRejection, verifications, asked] using (ih t).cons image

theorem imageCheck_validate (verifier : Verifier σ) (name : String) (token : Bool)
    (payload : Payload) (s : σ) :
    (imageCheck name token verifier).validate payload s =
      (.ok (verdictOn (verifier.firstRejection payload.job.images s).1),
        (verifier.firstRejection payload.job.images s).2) := by
  rcases asked : verifier.firstRejection payload.job.images s with ⟨_ | failure, t⟩
  · simp [imageCheck, asked, verdictOn]
  · simp [imageCheck, asked, verdictOn]

/-- Every check of the job gives the verdict and leaves the state, and the verifications are all
    that is said to the verifier on the way. -/
structure Checks (verifier : Verifier σ) (job : Job) (s : σ) (asked : List Verification)
    (verdict : Verdict) (t : σ) : Prop where
  judged : ∀ name token caller,
    (imageCheck name token verifier).validate ⟨job, caller⟩ s = (.ok verdict, t)
  watched : ∀ name token caller log,
    (imageCheck name token verifier.watched).validate ⟨job, caller⟩ (s, log) =
      (.ok verdict, t, log ++ asked)

theorem checks (verifier : Verifier σ) (job : Job) (s : σ) :
    verifier.Checks job s (verifier.verifications job.images s)
      (verdictOn (verifier.firstRejection job.images s).1)
      (verifier.firstRejection job.images s).2 where
  judged name token caller := verifier.imageCheck_validate name token ⟨job, caller⟩ s
  watched name token caller log := by
    rw [imageCheck_validate, firstRejection_watched]

end Verifier

/-- No docker task that names an image. -/
inductive Json.IdleTask : Json → Prop where
  | shapeless {v : Json} (other : ∀ members, v ≠ .object members) : IdleTask v
  | driver {task : Members} (other : task.get? "Driver" ≠ some (.string "docker")) :
      IdleTask (.object task)
  | unnamed {task : Members} (none : ∀ (config : Members) (image : String),
      task.get? "Config" = some (.object config) → config.get? "image" ≠ some (.string image)) :
      IdleTask (.object task)

/-- No group with a list of tasks. -/
inductive Json.IdleGroup : Json → Prop where
  | shapeless {v : Json} (other : ∀ members, v ≠ .object members) : IdleGroup v
  | taskless {group : Members} (none : ∀ tasks, group.get? "Tasks" ≠ some (.array tasks)) :
      IdleGroup (.object group)

/-- The second job has one more group, or one more task, that names no image, at some place. Beside
    their groups, and what stands in a group beside its tasks, the jobs need not agree. -/
inductive Job.Inserted (job wider : Job) : Prop where
  | group (before : List Json) {after : List Json} {group : Json} (idle : group.IdleGroup)
      (was : job.members.get? "TaskGroups" = some (.array (before ++ after)))
      (grown : wider.members.get? "TaskGroups" = some (.array (before ++ group :: after)))
  | task (before first : List Json) {after last : List Json} {group group' : Members} {task : Json}
      (idle : task.IdleTask)
      (was : job.members.get? "TaskGroups" = some (.array (before ++ .object group :: after)))
      (grown : wider.members.get? "TaskGroups" = some (.array (before ++ .object group' :: after)))
      (held : group.get? "Tasks" = some (.array (first ++ last)))
      (holds : group'.get? "Tasks" = some (.array (first ++ task :: last)))

namespace Json

theorem IdleTask.runs_nothing {task : Json} (idle : task.IdleTask) (image : String) :
    ¬ task.Runs image := by
  rintro ⟨driver, configured, named⟩
  cases idle with
  | shapeless other => exact other _ rfl
  | driver other => exact other driver
  | unnamed none => exact none _ _ configured named

theorem IdleTask.dockerImage? {task : Json} (idle : task.IdleTask) : task.dockerImage? = none := by
  rw [Option.eq_none_iff_forall_ne_some]
  exact fun image names => idle.runs_nothing image (dockerImage?_eq_some_iff.mp names)

theorem IdleGroup.listed {group : Json} (idle : group.IdleGroup) : group.listed "Tasks" = [] := by
  rw [List.eq_nil_iff_forall_not_mem]
  intro task member
  obtain ⟨t, there⟩ := List.getElem?_of_mem member
  obtain ⟨members, tasks, rfl, listed, -⟩ := getElem?_listed_iff.mp there
  cases idle with
  | shapeless other => exact other members rfl
  | taskless none => exact none tasks listed

end Json

theorem Job.Inserted.images {job wider : Job} (inserted : job.Inserted wider) :
    wider.images = job.images := by
  rw [images_eq, images_eq]
  cases inserted with
  | group before idle was grown =>
    simp only [toJson, Json.listed_eq was, Json.listed_eq grown]
    simp [idle.listed]
  | task before first idle was grown held holds =>
    simp only [toJson, Json.listed_eq was, Json.listed_eq grown]
    simp [Json.listed_eq held, Json.listed_eq holds, idle.dockerImage?]

/-- The verifier is asked about the images that the job names at its places, in the order of the
    document and up to the first that it rejects, about nothing else, and the verdict is a warning
    about this one or nothing. Whatever groups and tasks that name no image are inserted, it is
    asked the same, and the verdict is the same. -/
theorem images_asked_exactly {job wider : Job}
    (inserted : Relation.ReflTransGen Job.Inserted job wider) (verifier : Verifier σ) (s : σ) :
    ∃ images asked verdict t, InOrder (Prod.Lex (· < ·) (· < ·)) job.NamesAt images ∧
      Walk images asked verdict ∧ verifier.Checks job s asked verdict t ∧
      verifier.Checks wider s asked verdict t := by
  have same : wider.images = job.images := by
    induction inserted with
    | refl => rfl
    | tail _ step ih => rw [step.images, ih]
  have grown := verifier.checks wider s
  rw [same] at grown
  exact ⟨job.images, _, _, _, job.images_inOrder, verifier.walk job.images s,
    verifier.checks job s, grown⟩

/-- A verifier that trusts one image only. -/
def pickyVerifier : Verifier Unit where
  verify image s :=
    (if image = "good:1" then .ok () else .error (.plain ("untrusted image " ++ image) []), s)

def taskWith (driver image : String) : Json :=
  .object [("Driver", .string driver), ("Config", .object [("image", .string image)])]

/-- A job with a group of these tasks behind other groups. -/
def jobWith (groups tasks : List Json) : Job :=
  ⟨[("TaskGroups", .array (groups ++ [.object [("Tasks", .array tasks)]]))]⟩

/-- A job with three images. -/
def bareJob : Job :=
  jobWith [] [taskWith "docker" "good:1", taskWith "docker" "evil:1", taskWith "docker" "evil:2"]

/-- The same images, behind a group that is none and around a task of another driver. -/
def paddedJob : Job :=
  jobWith [.null] [taskWith "docker" "good:1", taskWith "exec" "ignored:1",
    taskWith "docker" "evil:1", taskWith "docker" "evil:2"]

/-- Of the three images two are asked about: the second is rejected. -/
theorem padded_job_asked_alike :
    Relation.ReflTransGen Job.Inserted bareJob paddedJob ∧
      (imageCheck "images" false pickyVerifier.watched).validate ⟨paddedJob, none⟩ ((), []) =
        (.ok ⟨["untrusted image evil:1"], ⟨[]⟩⟩, (),
          [⟨"good:1", .ok ()⟩, ⟨"evil:1", .error (.plain "untrusted image evil:1" [])⟩]) := by
  have behind : Job.Inserted bareJob (jobWith [.null] [taskWith "docker" "good:1",
      taskWith "docker" "evil:1", taskWith "docker" "evil:2"]) :=
    .group [] (.shapeless (by simp)) rfl rfl
  have between : Job.Inserted (jobWith [.null] [taskWith "docker" "good:1",
      taskWith "docker" "evil:1", taskWith "docker" "evil:2"]) paddedJob :=
    .task [.null] [taskWith "docker" "good:1"] (.driver (by decide)) rfl rfl rfl rfl
  have grown := (Relation.ReflTransGen.single behind).tail between
  refine ⟨grown, ?_⟩
  obtain ⟨_, asked, verdict, t, -, -, plain, padded⟩ := images_asked_exactly grown pickyVerifier ()
  rw [padded.watched, ← plain.watched "images" false none []]
  rfl

end JobGate
