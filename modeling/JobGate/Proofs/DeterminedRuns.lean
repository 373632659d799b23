import JobGate.Proofs.PipelineRuns
import JobGate.Proofs.Results
import JobGate.Proofs.SteadyRuns

/-!
Runs of controllers whose answers depend on nothing but the payload, whatever state they read and
leave. Such a run says the same from every state (`review_determined`), and the calls of validators
are one for each of them with a fixed answer, so that reordering the validators reorders the calls
and changes nothing else: the decision and the job stay, the warnings of the mutators stay first,
and what the validators say comes in blocks, one for each validator, that trade places
(`enforce_reordered`). The mutators need not be determined for it: they run before any validator.
-/
namespace JobGate

variable {σ : Type}

/-- The answer of the mutator depends on nothing but the payload. -/
def Mutator.PayloadDetermined (m : Mutator σ) : Prop :=
  ∀ payload s t, (m.mutate payload s).1 = (m.mutate payload t).1

/-- The verdict of the validator depends on nothing but the payload. -/
def Validator.PayloadDetermined (v : Validator σ) : Prop :=
  ∀ payload s t, (v.validate payload s).1 = (v.validate payload t).1

/-- The review that calls make up: the job that the mutators left, and then call by call the
    warnings of the mutators, the warnings of the validators and the causes against the job. -/
def Review.ofCalls (submitted : Job) (mutations : List (MutatorCall σ))
    (judgements : List (ValidatorCall σ)) : Review where
  job := lastJob submitted mutations
  warnings := mutations.flatMap MutatorCall.warnings ++ judgements.flatMap ValidatorCall.warnings
  errors := ⟨judgements.flatMap ValidatorCall.causes⟩

namespace Pipeline

/-- The answers of all controllers depend on nothing but the payload. -/
structure PayloadDetermined (pipeline : Pipeline σ) : Prop where
  mutators : ∀ m ∈ pipeline.mutators, m.PayloadDetermined
  validators : ∀ v ∈ pipeline.validators, v.PayloadDetermined

/-- Controllers that are determined by the payload are steady whatever states are taken as alike. -/
theorem PayloadDetermined.allSteady {pipeline : Pipeline σ}
    (determined : pipeline.PayloadDetermined) : pipeline.AllSteady fun _ _ => True where
  mutators m member payload s t _ := ⟨determined.mutators m member payload s t, trivial⟩
  validators v member payload s t _ := ⟨determined.validators v member payload s t, trivial⟩

theorem review_determined {pipeline : Pipeline σ} (determined : pipeline.PayloadDetermined)
    (payload : Payload) (s t : σ) :
    (pipeline.review payload s).1 = (pipeline.review payload t).1 :=
  (review_steady determined.allSteady payload s t trivial).1

/-- Each determined validator is called once and answers as it would from any other state. -/
theorem validatorCalls_determined {validators : List (Validator σ)}
    (determined : ∀ v ∈ validators, v.PayloadDetermined) (payload : Payload) (s t : σ) :
    validatorCalls validators payload s =
      validators.map fun v => ⟨v, payload, (v.validate payload t).1⟩ := by
  induction validators generalizing s with
  | nil => rfl
  | cons v rest ih =>
    simp [validatorCalls, determined v (by simp) payload s t,
      ih fun v member => determined v (.tail _ member)]

theorem validatorCalls_reordered {validators others : List (Validator σ)}
    (perm : validators.Perm others) (determined : ∀ v ∈ validators, v.PayloadDetermined)
    (payload : Payload) (s : σ) :
    (validatorCalls validators payload s).Perm (validatorCalls others payload s) := by
  have alike : ∀ v ∈ others, v.PayloadDetermined := fun v member =>
    determined v (perm.mem_iff.mpr member)
  rw [validatorCalls_determined determined payload s s, validatorCalls_determined alike payload s s]
  exact perm.map _

/-- A review whose mutators all succeed is made up of its calls. -/
theorem review_of_mutated {pipeline : Pipeline σ} {payload : Payload} {s t : σ}
    {admitted : Admitted} {events : List Event}
    (mutated : pipeline.mutate payload s = (⟨.ok admitted, events⟩, t)) :
    (pipeline.review payload s).1.result = .ok
      (.ofCalls payload.job (pipeline.mutations payload s) (pipeline.judgements payload s)) := by
  have ran : (runMutators pipeline.mutators payload s).1.result = .ok admitted := by
    rw [← mutate, mutated]
  obtain ⟨_, _, job, warnings⟩ := runMutators_ok ran
  obtain ⟨warned, refused⟩ :=
    runValidators_verdict pipeline.validators { payload with job := admitted.job } t
  simp [review, mutated, validate, Review.ofCalls, judgements, mutations, ← job, ← warnings,
    ← warned, ← refused]

theorem review_of_stopped {pipeline : Pipeline σ} {payload : Payload} {s t : σ}
    {refusal : Refusal} {events : List Event}
    (stopped : pipeline.mutate payload s = (⟨.error refusal, events⟩, t)) :
    (pipeline.review payload s).1.result = .error refusal := by
  simp [review, stopped]

/-- What two orders of the validators may differ in: a review that both orders finish is made up of
    the same mutations and of the judgements in their own order. -/
def Reordered (submitted : Job) (mutations : List (MutatorCall σ))
    (judgements rejudgements : List (ValidatorCall σ)) (reviewed rereviewed : Review) : Prop :=
  reviewed = .ofCalls submitted mutations judgements ∧
    rereviewed = .ofCalls submitted mutations rejudgements

theorem review_reordered (mutators : List (Mutator σ)) {validators others : List (Validator σ)}
    (perm : validators.Perm others) (determined : ∀ v ∈ validators, v.PayloadDetermined)
    (payload : Payload) (s : σ) :
    (judgements ⟨mutators, validators⟩ payload s).Perm (judgements ⟨mutators, others⟩ payload s) ∧
      EndsAlike
        (Reordered payload.job (mutations ⟨mutators, validators⟩ payload s)
          (judgements ⟨mutators, validators⟩ payload s) (judgements ⟨mutators, others⟩ payload s))
        (review ⟨mutators, validators⟩ payload s).1.result
        (review ⟨mutators, others⟩ payload s).1.result := by
  -- both orders run the same mutators from the same state
  rcases ran : runMutators mutators payload s with ⟨⟨refusal | admitted, events⟩, t⟩
  · have stopped (validators : List (Validator σ)) :
        mutate ⟨mutators, validators⟩ payload s = (⟨.error refusal, events⟩, t) := ran
    rw [review_of_stopped (stopped validators), review_of_stopped (stopped others)]
    exact ⟨by simp [judgements, stopped], .failed refusal⟩
  · have mutated (validators : List (Validator σ)) :
        mutate ⟨mutators, validators⟩ payload s = (⟨.ok admitted, events⟩, t) := ran
    rw [review_of_mutated (mutated validators), review_of_mutated (mutated others)]
    refine ⟨?_, .done ⟨rfl, rfl⟩⟩
    simpa [judgements, mutated] using
      validatorCalls_reordered perm determined { payload with job := admitted.job } t

theorem enforced_job_iff (review : Review) (job : Job) :
    (∃ warnings, review.enforced = .ok ⟨job, warnings⟩) ↔
      review.errors.list = [] ∧ review.job = job := by
  constructor
  · rintro ⟨warnings, admitted⟩
    by_cases none : review.errors.list = []
    · rw [enforced_of_no_causes none] at admitted
      cases admitted
      exact ⟨none, rfl⟩
    · rw [enforced_of_causes none] at admitted
      cases admitted
  · rintro ⟨none, rfl⟩
    exact ⟨review.warnings, enforced_of_no_causes none⟩

theorem Reordered.enforced_iff {submitted : Job} {mutations : List (MutatorCall σ)}
    {judgements rejudgements : List (ValidatorCall σ)} {reviewed rereviewed : Review}
    (reordered : Reordered submitted mutations judgements rejudgements reviewed rereviewed)
    (causes : (judgements.flatMap ValidatorCall.causes).Perm
      (rejudgements.flatMap ValidatorCall.causes)) (job : Job) :
    (∃ warnings, reviewed.enforced = .ok ⟨job, warnings⟩) ↔
      ∃ warnings, rereviewed.enforced = .ok ⟨job, warnings⟩ := by
  obtain ⟨rfl, rfl⟩ := reordered
  have none : judgements.flatMap ValidatorCall.causes = [] ↔
      rejudgements.flatMap ValidatorCall.causes = [] := by
    rw [← List.perm_nil, causes.congr_left, List.perm_nil]
  simp only [enforced_job_iff, Review.ofCalls, none]

/-- Two orders of the validators treat a payload alike: they call the same mutators with the same
    answers, and the calls of the validators trade places; so do, in blocks of one call each, the
    warnings and the causes of the validators. Both reviews fail with the same refusal, or hold the
    same job and the same warnings of mutators in front. Both orders admit the job or neither. -/
structure OrdersAgree (mutators : List (Mutator σ)) (validators others : List (Validator σ))
    (payload : Payload) (s : σ) (mutations : List (MutatorCall σ))
    (judgements rejudgements : List (ValidatorCall σ)) : Prop where
  calls : (watched ⟨mutators, validators⟩).enforce payload (s, []) =
    ((enforce ⟨mutators, validators⟩ payload s).1, ((enforce ⟨mutators, validators⟩ payload s).2,
      mutations.map .mutator ++ judgements.map .validator))
  recalls : (watched ⟨mutators, others⟩).enforce payload (s, []) =
    ((enforce ⟨mutators, others⟩ payload s).1, ((enforce ⟨mutators, others⟩ payload s).2,
      mutations.map .mutator ++ rejudgements.map .validator))
  judged : judgements.Perm rejudgements
  warnings : (judgements.flatMap ValidatorCall.warnings).Perm
    (rejudgements.flatMap ValidatorCall.warnings)
  causes : (judgements.flatMap ValidatorCall.causes).Perm
    (rejudgements.flatMap ValidatorCall.causes)
  reviewed : EndsAlike (Reordered payload.job mutations judgements rejudgements)
    (review ⟨mutators, validators⟩ payload s).1.result
    (review ⟨mutators, others⟩ payload s).1.result
  admitted : ∀ job,
    (∃ warnings, (enforce ⟨mutators, validators⟩ payload s).1.result = .ok ⟨job, warnings⟩) ↔
      ∃ warnings, (enforce ⟨mutators, others⟩ payload s).1.result = .ok ⟨job, warnings⟩

/-- The order of validators whose verdicts depend on nothing but the payload never changes a
    decision, whatever the mutators do. -/
theorem enforce_reordered (mutators : List (Mutator σ)) {validators others : List (Validator σ)}
    (perm : validators.Perm others) (determined : ∀ v ∈ validators, v.PayloadDetermined)
    (payload : Payload) (s : σ) :
    ∃ mutations judgements rejudgements,
      OrdersAgree mutators validators others payload s mutations judgements rejudgements := by
  obtain ⟨judged, reviewed⟩ := review_reordered mutators perm determined payload s
  have causes := judged.flatMap_right ValidatorCall.causes
  refine ⟨mutations ⟨mutators, validators⟩ payload s, judgements ⟨mutators, validators⟩ payload s,
    judgements ⟨mutators, others⟩ payload s, ?_, ?_, judged,
    judged.flatMap_right ValidatorCall.warnings, causes, reviewed, fun job => ?_⟩
  · simpa [reviewCalls] using enforce_watched ⟨mutators, validators⟩ payload s []
  · -- which validators follow is nothing to the mutators
    have calls := enforce_watched ⟨mutators, others⟩ payload s []
    rw [reviewCalls, show mutations ⟨mutators, others⟩ payload s =
      mutations ⟨mutators, validators⟩ payload s from rfl] at calls
    simpa using calls
  · rw [enforce_result, enforce_result]
    rcases reviewed.cases with ⟨refusal, first, second⟩ | ⟨_, _, first, second, reordered⟩
    · rw [first, second]
    · rw [first, second]
      exact reordered.enforced_iff causes job

/-- A validator with a fixed answer, which counts how often validators were asked. -/
def tally (name : String) (answer : Except Failure Verdict) : Validator Nat where
  name := name
  resolvesToken := false
  validate _ asked := (answer, asked + 1)

/-- A validator that warns twice and finds two causes. -/
def strict : Validator Nat := tally "strict" (.ok ⟨["no owner", "no team"], ⟨["late", "big"]⟩⟩)

def broken : Validator Nat := tally "broken" (.error (.plain "no answer" []))

theorem broken_before_or_after_strict :
    [strict, broken].Perm [broken, strict] ∧
      (∀ v ∈ [strict, broken], v.PayloadDetermined) ∧
      ∃ mutations judgements rejudgements,
        OrdersAgree [] [strict, broken] [broken, strict] ⟨Job.empty, none⟩ 0 mutations judgements
          rejudgements := by
  have perm : [strict, broken].Perm [broken, strict] := .swap broken strict []
  have determined : ∀ v ∈ [strict, broken], v.PayloadDetermined := by
    intro v member payload s t
    rcases List.mem_pair.mp member with rfl | rfl <;> rfl
  exact ⟨perm, determined, enforce_reordered [] perm determined ⟨Job.empty, none⟩ 0⟩

end Pipeline
end JobGate
