import JobGate.Proofs.ControllerCalls
import Mathlib.Data.List.Forall2

/-!
Runs of a pipeline against a sequential reference. `Reference` says what a run is without running
it: mutators in order up to the first failure, each on the job of the one before, then every
validator on the job that is left, and a result that is put together from their answers. Every
review is such a run (`reference_review`), and a job is admitted exactly when all mutators succeed
and no validator adds a cause (`Reference.admits_iff`). The case that a reader would not expect is
a validator that fails and gives no cause: it counts as no objection.
-/
namespace JobGate

variable {σ : Type}

/-- The causes stand at the core of the failure, under any number of contexts. -/
inductive Failure.Holds (causes : Causes) : Failure → Prop where
  | many : Holds causes (.many causes)
  | context {message : String} {inner : Failure} (inside : Holds causes inner) :
      Holds causes (.context message inner)

theorem Failure.causes?_eq_some_iff (failure : Failure) (causes : Causes) :
    failure.causes? = some causes ↔ failure.Holds causes := by
  induction failure with
  | plain message behind =>
    constructor
    · intro found; simp [Failure.causes?] at found
    · intro held; cases held
  | many found =>
    constructor
    · intro same
      obtain rfl : found = causes := by simpa [Failure.causes?] using same
      exact .many
    · intro held; cases held; rfl
  | context message inner ih =>
    constructor
    · intro found; exact .context (ih.mp found)
    · intro held
      cases held with
      | context inside => exact ih.mpr inside

/-- What one call of a validator adds to the causes against the job. -/
inductive ValidatorCall.Adds (call : ValidatorCall σ) : List String → Prop where
  | found {verdict : Verdict} (answered : call.answer = .ok verdict) :
      Adds call verdict.errors.list
  | held {failure : Failure} {causes : Causes} (failed : call.answer = .error failure)
      (holds : failure.Holds causes) : Adds call causes.list
  | line {failure : Failure} (failed : call.answer = .error failure)
      (single : ∀ causes, ¬ failure.Holds causes) :
      Adds call [failure.fullText ++ " (" ++ call.controller.name ++ ")"]

theorem ValidatorCall.adds_iff (call : ValidatorCall σ) (added : List String) :
    call.Adds added ↔ added = call.causes := by
  have only : ∀ added, call.Adds added → added = call.causes := by
    intro added adds
    cases adds with
    | found answered => simp [ValidatorCall.causes, answered]
    | held failed holds =>
      simp [ValidatorCall.causes, failed, Failure.asCauses,
        (Failure.causes?_eq_some_iff _ _).mpr holds]
    | @line failure failed single =>
      have none : failure.causes? = none := by
        rcases found : failure.causes? with _ | causes
        · rfl
        · exact absurd ((Failure.causes?_eq_some_iff _ _).mp found) (single causes)
      simp [ValidatorCall.causes, failed, Failure.asCauses, none]
  refine ⟨only added, ?_⟩
  rintro rfl
  rcases answered : call.answer with failure | verdict
  · rcases found : failure.causes? with _ | causes
    · have adds : call.Adds [failure.fullText ++ " (" ++ call.controller.name ++ ")"] :=
        .line answered fun causes holds => by
          simp [(Failure.causes?_eq_some_iff _ _).mpr holds] at found
      exact only _ adds ▸ adds
    · have adds : call.Adds causes.list :=
        .held answered ((Failure.causes?_eq_some_iff _ _).mp found)
      exact only _ adds ▸ adds
  · have adds : call.Adds verdict.errors.list := .found answered
    exact only _ adds ▸ adds

theorem ValidatorCall.forall₂_adds_iff (judgements : List (ValidatorCall σ))
    (added : List (List String)) :
    List.Forall₂ ValidatorCall.Adds judgements added ↔
      added = judgements.map ValidatorCall.causes := by
  induction judgements generalizing added with
  | nil => simp
  | cons call rest ih =>
    cases added with
    | nil => simp
    | cons first more => simp [ValidatorCall.adds_iff, ih]

/-- The validator answered and found nothing against the job. -/
def ValidatorCall.Passed (call : ValidatorCall σ) : Prop :=
  ∃ warnings, call.answer = .ok ⟨warnings, Causes.none⟩

/-- The validator failed with several causes, of which there are none. -/
def ValidatorCall.FailedCauseless (call : ValidatorCall σ) : Prop :=
  ∃ failure, call.answer = .error failure ∧ failure.Holds Causes.none

/-- A validator adds no cause exactly when it found none, or failed without any. -/
theorem ValidatorCall.adds_nil_iff (call : ValidatorCall σ) :
    call.Adds [] ↔ call.Passed ∨ call.FailedCauseless := by
  constructor
  · generalize nothing : ([] : List String) = added
    intro adds
    cases adds with
    | @found verdict answered =>
      obtain ⟨warnings, ⟨list⟩⟩ := verdict
      obtain rfl : [] = list := nothing
      exact .inl ⟨warnings, answered⟩
    | @held failure causes failed holds =>
      obtain ⟨list⟩ := causes
      obtain rfl : [] = list := nothing
      exact .inr ⟨failure, failed, holds⟩
    | line failed single => simp at nothing
  · rintro (⟨warnings, answered⟩ | ⟨failure, failed, holds⟩)
    · exact .found answered
    · exact .held failed holds

/-- Validators bring no cause together exactly when none of them brings one. -/
theorem ValidatorCall.no_causes_iff (judgements : List (ValidatorCall σ)) :
    (judgements.map ValidatorCall.causes).flatten = [] ↔
      ∀ call ∈ judgements, call.Passed ∨ call.FailedCauseless := by
  have single (call : ValidatorCall σ) : call.causes = [] ↔ call.Passed ∨ call.FailedCauseless := by
    rw [← call.adds_nil_iff, call.adds_iff, eq_comm]
  simp [single]

theorem ValidatorCall.Passed.not_failedCauseless {call : ValidatorCall σ} (passed : call.Passed) :
    ¬ call.FailedCauseless := by
  obtain ⟨warnings, answered⟩ := passed
  rintro ⟨failure, failed, _⟩
  simp [answered] at failed

namespace Pipeline

/-! ## The reference -/

/-- Mutators were run on a payload: none twice, in configured order, each shown the job that the
    one before returned, and answering as it does in the state that the one before left. -/
structure MutatorRun (pipeline : Pipeline σ) (payload : Payload) (s : σ)
    (mutations : List (MutatorCall σ)) (t : σ) : Prop where
  order : mutations.map (·.controller) <+: pipeline.mutators
  shown : mutations.map (·.shown) =
    ((payload.job :: mutations.filterMap MutatorCall.job?).take mutations.length).map
      (⟨·, payload.caller⟩)
  played : ControllerCall.Played Mutator.mutate s mutations t

/-- The reviews of a payload from a state, with their calls, result, and the state they leave. -/
inductive Reference (pipeline : Pipeline σ) (payload : Payload) (s : σ) :
    List (MutatorCall σ) → List (ValidatorCall σ) → Except Refusal Review → σ → Prop where
  /-- The last mutator called failed; nobody was asked after it. -/
  | stopped {earlier : List (MutatorCall σ)} {last : MutatorCall σ} {failure : Failure} {t : σ}
      (run : MutatorRun pipeline payload s (earlier ++ [last]) t)
      (succeeded : ∀ call ∈ earlier, call.Succeeded) (failed : last.answer = .error failure) :
      Reference pipeline payload s (earlier ++ [last]) []
        (.error (.mutator last.controller.name failure)) t
  /-- All mutators succeeded and every validator was asked once about the job they left. -/
  | finished {mutations : List (MutatorCall σ)} {judgements : List (ValidatorCall σ)}
      {added : List (List String)} {t u : σ}
      (run : MutatorRun pipeline payload s mutations t)
      (all : mutations.map (·.controller) = pipeline.mutators)
      (succeeded : ∀ call ∈ mutations, call.Succeeded)
      (judged : judgements.map (·.controller) = pipeline.validators)
      (shown : ∀ call ∈ judgements, call.shown = ⟨lastJob payload.job mutations, payload.caller⟩)
      (played : ControllerCall.Played Validator.validate t judgements u)
      (adds : List.Forall₂ ValidatorCall.Adds judgements added) :
      Reference pipeline payload s mutations judgements
        (.ok ⟨lastJob payload.job mutations,
          mutations.flatMap MutatorCall.warnings ++ judgements.flatMap ValidatorCall.warnings,
          ⟨added.flatten⟩⟩) u

theorem mutatorRun_mutations (pipeline : Pipeline σ) (payload : Payload) (s : σ) :
    MutatorRun pipeline payload s (pipeline.mutations payload s) (pipeline.mutate payload s).2 where
  order := mutatorCalls_order pipeline.mutators payload s
  shown := mutatorCalls_shown pipeline.mutators payload s
  played := mutatorCalls_played pipeline.mutators payload s

/-- The calls of a review, its result and the state it leaves are those of the reference. -/
theorem reference_review (pipeline : Pipeline σ) (payload : Payload) (s : σ) :
    Reference pipeline payload s (pipeline.mutations payload s) (pipeline.judgements payload s)
      (pipeline.review payload s).1.result (pipeline.review payload s).2 := by
  have run := mutatorRun_mutations pipeline payload s
  rcases mutated : pipeline.mutate payload s with ⟨⟨refusal | admitted, events⟩, t⟩
  · have ran : (runMutators pipeline.mutators payload s).1.result = .error refusal := by
      rw [← mutate, mutated]
    obtain ⟨earlier, last, failure, calls, succeeded, failed, rfl⟩ := runMutators_error ran
    have made : pipeline.mutations payload s = earlier ++ [last] := calls
    have judged : pipeline.judgements payload s = [] := by simp [judgements, mutated]
    have reviewed : pipeline.review payload s =
        (⟨.error (.mutator last.controller.name failure), events⟩, t) := by simp [review, mutated]
    rw [judged, reviewed, made]
    rw [made, mutated] at run
    exact .stopped run succeeded failed
  · have ran : (runMutators pipeline.mutators payload s).1.result = .ok admitted := by
      rw [← mutate, mutated]
    obtain ⟨all, succeeded, job, warnings⟩ := runMutators_ok ran
    have made : pipeline.judgements payload s =
        validatorCalls pipeline.validators { payload with job := admitted.job } t := by
      simp [judgements, mutated]
    obtain ⟨warned, refused⟩ :=
      runValidators_verdict pipeline.validators { payload with job := admitted.job } t
    have played := validatorCalls_played pipeline.validators { payload with job := admitted.job } t
    have reviewed : (pipeline.review payload s).1.result =
        .ok ⟨lastJob payload.job (pipeline.mutations payload s),
          (pipeline.mutations payload s).flatMap MutatorCall.warnings ++
            (pipeline.judgements payload s).flatMap ValidatorCall.warnings,
          ⟨((pipeline.judgements payload s).map ValidatorCall.causes).flatten⟩⟩ := by
      rw [made, ← List.flatMap_def, ← refused, ← warned, mutations, ← job, ← warnings]
      simp [review, mutated, validate]
    have left : (pipeline.review payload s).2 =
        (runValidators pipeline.validators { payload with job := admitted.job } t).2 := by
      simp [review, mutated, validate]
    rw [reviewed, left]
    rw [mutated] at run
    refine .finished run all succeeded ?_ ?_ ?_ ((ValidatorCall.forall₂_adds_iff _ _).mpr rfl)
    · rw [made]
      exact validatorCalls_order _ _ _
    · intro call member
      rw [made] at member
      rw [validatorCalls_shown _ _ _ call member, job, mutations]
    · rw [made]
      exact played

/-- Every review is a run of the reference, and the calls told are those that are made. -/
theorem review_follows_reference (pipeline : Pipeline σ) (payload : Payload) (s : σ) :
    ∃ mutations judgements,
      pipeline.watched.review payload (s, []) =
        ((pipeline.review payload s).1, ((pipeline.review payload s).2,
          mutations.map .mutator ++ judgements.map .validator)) ∧
      Reference pipeline payload s mutations judgements (pipeline.review payload s).1.result
        (pipeline.review payload s).2 := by
  refine ⟨pipeline.mutations payload s, pipeline.judgements payload s, ?_,
    reference_review pipeline payload s⟩
  simpa [reviewCalls] using review_watched pipeline payload s []

/-! ## Admission -/

/-- Every mutator was asked and none failed. -/
def EveryMutatorSucceeded (pipeline : Pipeline σ) (mutations : List (MutatorCall σ)) : Prop :=
  mutations.map (·.controller) = pipeline.mutators ∧ ∀ call ∈ mutations, call.Succeeded

/-- Every validator was asked about the payload that the mutators left, and each answer meets a
    condition. -/
def EveryValidator (pipeline : Pipeline σ) (payload : Payload) (mutations : List (MutatorCall σ))
    (judgements : List (ValidatorCall σ)) (meets : ValidatorCall σ → Prop) : Prop :=
  judgements.map (·.controller) = pipeline.validators ∧
    ∀ call ∈ judgements,
      call.shown = ⟨lastJob payload.job mutations, payload.caller⟩ ∧ meets call

/-- The job is admitted. -/
def Admits (pipeline : Pipeline σ) (payload : Payload) (s : σ) : Prop :=
  ∃ admitted, (pipeline.enforce payload s).1.result = .ok admitted

theorem enforce_result (pipeline : Pipeline σ) (payload : Payload) (s : σ) :
    (pipeline.enforce payload s).1.result =
      (pipeline.review payload s).1.result.bind Review.enforced := rfl

theorem enforced_of_no_causes {review : Review} (none : review.errors.list = []) :
    review.enforced = .ok ⟨review.job, review.warnings⟩ := by
  simp [Review.enforced, Causes.isEmpty, none]

theorem enforced_of_causes {review : Review} (some : review.errors.list ≠ []) :
    review.enforced = .error (.validation review.errors) := by
  simp [Review.enforced, Causes.isEmpty, some]

/-- A job is admitted exactly when all mutators succeed and no validator adds a cause. -/
theorem Reference.admits_iff {pipeline : Pipeline σ} {payload : Payload} {s t : σ}
    {mutations : List (MutatorCall σ)} {judgements : List (ValidatorCall σ)}
    (run : Reference pipeline payload s mutations judgements
      (pipeline.review payload s).1.result t) :
    pipeline.Admits payload s ↔ pipeline.EveryMutatorSucceeded mutations ∧
      pipeline.EveryValidator payload mutations judgements fun call =>
        call.Passed ∨ call.FailedCauseless := by
  rw [Admits, enforce_result]
  generalize (pipeline.review payload s).1.result = result at run
  cases run with
  | @stopped earlier last failure _ _ succeeded failed =>
    constructor
    · rintro ⟨admitted, impossible⟩
      cases impossible
    · rintro ⟨⟨_, all⟩, _⟩
      obtain ⟨mutation, answered⟩ := all last (by simp)
      simp [failed] at answered
  | finished run all succeeded judged shown played adds =>
    obtain rfl := (ValidatorCall.forall₂_adds_iff _ _).mp adds
    rcases causes : (judgements.map ValidatorCall.causes).flatten with _ | ⟨first, more⟩
    · have passed := (ValidatorCall.no_causes_iff _).mp causes
      constructor
      · intro _
        exact ⟨⟨all, succeeded⟩, judged, fun call member =>
          ⟨shown call member, passed call member⟩⟩
      · intro _
        exact ⟨_, enforced_of_no_causes rfl⟩
    · constructor
      · rintro ⟨admitted, accepted⟩
        have refused : Review.enforced ⟨lastJob payload.job mutations,
            mutations.flatMap MutatorCall.warnings ++ judgements.flatMap ValidatorCall.warnings,
            ⟨first :: more⟩⟩ = .error (.validation ⟨first :: more⟩) :=
          enforced_of_causes (List.cons_ne_nil first more)
        simp [Except.bind, refused] at accepted
      · rintro ⟨_, _, fine⟩
        have none := (ValidatorCall.no_causes_iff _).mpr fun call member => (fine call member).2
        simp [none] at causes

/-- A validator that fails keeps the job out, unless it fails without a cause. -/
theorem Reference.refuses {pipeline : Pipeline σ} {payload : Payload} {s t : σ}
    {mutations : List (MutatorCall σ)} {judgements : List (ValidatorCall σ)}
    (run : Reference pipeline payload s mutations judgements
      (pipeline.review payload s).1.result t)
    {call : ValidatorCall σ} (asked : call ∈ judgements) {failure : Failure}
    (failed : call.answer = .error failure) (cause : ¬ failure.Holds Causes.none) :
    ∃ causes, (pipeline.enforce payload s).1.result = .error (.validation causes) ∧
      causes.list ≠ [] := by
  rw [enforce_result]
  generalize (pipeline.review payload s).1.result = result at run
  cases run with
  | stopped => simp at asked
  | finished run all succeeded judged shown played adds =>
    obtain rfl := (ValidatorCall.forall₂_adds_iff _ _).mp adds
    have some : (judgements.map ValidatorCall.causes).flatten ≠ [] := by
      intro none
      rcases (ValidatorCall.no_causes_iff _).mp none call asked with ⟨warnings, answered⟩ |
        ⟨other, same, holds⟩
      · simp [failed] at answered
      · obtain rfl : failure = other := by simpa [failed] using same
        exact cause holds
    exact ⟨_, enforced_of_causes some, some⟩

/-- A job is admitted exactly when every mutator succeeds and every validator, asked about the job
    that the mutators left, passes it or fails without a cause. So failures keep the job out in
    every run but those that admit it over a failure without a cause; any other failure of a
    validator refuses the job with at least one cause. -/
theorem enforce_admits_iff (pipeline : Pipeline σ) (payload : Payload) (s : σ) :
    ∃ mutations judgements,
      pipeline.watched.enforce payload (s, []) =
        ((pipeline.enforce payload s).1, ((pipeline.enforce payload s).2,
          mutations.map .mutator ++ judgements.map .validator)) ∧
      (pipeline.Admits payload s ↔ pipeline.EveryMutatorSucceeded mutations ∧
        pipeline.EveryValidator payload mutations judgements fun call =>
          call.Passed ∨ call.FailedCauseless) ∧
      ((pipeline.Admits payload s ↔ pipeline.EveryMutatorSucceeded mutations ∧
          pipeline.EveryValidator payload mutations judgements ValidatorCall.Passed) ↔
        ¬ (pipeline.Admits payload s ∧ ∃ call ∈ judgements, call.FailedCauseless)) ∧
      ∀ call ∈ judgements, ∀ failure, call.answer = .error failure →
        ¬ failure.Holds Causes.none →
          ∃ causes, (pipeline.enforce payload s).1.result = .error (.validation causes) ∧
            causes.list ≠ [] := by
  have run := reference_review pipeline payload s
  refine ⟨pipeline.mutations payload s, pipeline.judgements payload s, ?_, run.admits_iff, ?_,
    fun call asked failure failed cause => run.refuses asked failed cause⟩
  · simpa [reviewCalls] using enforce_watched pipeline payload s []
  · constructor
    · rintro closed ⟨admits, call, asked, causeless⟩
      obtain ⟨_, _, passed⟩ := closed.mp admits
      exact (passed call asked).2.not_failedCauseless causeless
    · intro none
      constructor
      · intro admits
        obtain ⟨succeeded, judged, fine⟩ := run.admits_iff.mp admits
        refine ⟨succeeded, judged, fun call asked => ⟨(fine call asked).1, ?_⟩⟩
        rcases (fine call asked).2 with passed | causeless
        · exact passed
        · exact absurd ⟨admits, call, asked, causeless⟩ none
      · rintro ⟨succeeded, judged, passed⟩
        exact run.admits_iff.mpr ⟨succeeded, judged, fun call asked =>
          ⟨(passed call asked).1, .inl (passed call asked).2⟩⟩

/-- A validator that fails and gives several causes, of which there are none. -/
def causelessValidator : Validator Unit where
  name := "causeless"
  resolvesToken := false
  validate _ s := (.error (.many Causes.none), s)

/-- Admission does not fail closed: a job is admitted although its only validator failed. -/
theorem causeless_failure_admitted :
    Admits ⟨[], [causelessValidator]⟩ ⟨Job.empty, none⟩ () ∧
      (causelessValidator.validate ⟨Job.empty, none⟩ ()).1 = .error (.many Causes.none) :=
  ⟨⟨⟨Job.empty, []⟩, rfl⟩, rfl⟩

end Pipeline
end JobGate
