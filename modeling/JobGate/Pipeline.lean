import JobGate.Controller

/-!
# The pipeline

A pipeline runs its mutators one after another, each on the job that the one before returned, and
stops at the first that fails. Then every validator judges the same payload, whatever the others
found. `Pipeline.review` reports what they found; `Pipeline.enforce` refuses the job for it.
-/
namespace JobGate

/-- Why a job is not admitted. -/
inductive Refusal where
  /-- A mutator failed. -/
  | mutator (name : String) (failure : Failure)
  /-- Validators found reasons. -/
  | validation (causes : Causes)
  deriving DecidableEq

def Refusal.message : Refusal → String
  | .mutator name failure => "failed to mutate job with " ++ name ++ ": " ++ failure.message
  | .validation causes => causes.text

/-- The result of a run, and what was counted on the way. -/
structure Outcome (α : Type) where
  result : Except Refusal α
  events : List Event

/-- A job with the warnings raised on its way. -/
structure Admitted where
  job : Job
  warnings : List String
  deriving DecidableEq, Inhabited

/-- A job that was reviewed. -/
structure Review where
  job : Job
  warnings : List String
  errors : Causes
  deriving DecidableEq, Inhabited

/-- The verdict on a review where errors refuse the job. -/
def Review.enforced (review : Review) : Except Refusal Admitted :=
  if review.errors.isEmpty then .ok ⟨review.job, review.warnings⟩
  else .error (.validation review.errors)

/-- The controllers of a gate, in order. -/
structure Pipeline (σ : Type) where
  mutators : List (Mutator σ)
  validators : List (Validator σ)

namespace Pipeline

variable {σ : Type}

/-- Whether some controller wants the caller's token resolved. -/
def resolvesToken (pipeline : Pipeline σ) : Bool :=
  pipeline.mutators.any (·.resolvesToken) || pipeline.validators.any (·.resolvesToken)

/-- Runs mutators in order, each on the job of the one before. -/
def runMutators : List (Mutator σ) → Payload → σ → Outcome Admitted × σ
  | [], payload, s => (⟨.ok ⟨payload.job, []⟩, []⟩, s)
  | m :: rest, payload, s =>
    match m.mutate payload s with
    | (.error failure, s) => (⟨.error (.mutator m.name failure), [.mutatorError m.name]⟩, s)
    | (.ok mutation, s) =>
      let (out, s) := runMutators rest { payload with job := mutation.job } s
      (⟨out.result.map fun admitted =>
          { admitted with warnings := mutation.warnings ++ admitted.warnings },
        mutation.events m.name ++ out.events⟩, s)

/-- Runs validators in order on one payload. -/
def runValidators : List (Validator σ) → Payload → σ → (Verdict × List Event) × σ
  | [], _, s => ((Verdict.clean, []), s)
  | v :: rest, payload, s =>
    match v.validate payload s with
    | (.ok verdict, s) =>
      let ((others, events), s) := runValidators rest payload s
      ((⟨verdict.warnings ++ others.warnings, verdict.errors ++ others.errors⟩,
        verdict.events v.name ++ events), s)
    | (.error failure, s) =>
      let causes := failure.asCauses v.name
      let ((others, events), s) := runValidators rest payload s
      ((⟨others.warnings, causes ++ others.errors⟩,
        .validatorErrors v.name causes.count :: events), s)

def mutate (pipeline : Pipeline σ) : Payload → σ → Outcome Admitted × σ :=
  runMutators pipeline.mutators

def validate (pipeline : Pipeline σ) : Payload → σ → (Verdict × List Event) × σ :=
  runValidators pipeline.validators

/-- Reviews a job: the validators' errors are part of the result. -/
def review (pipeline : Pipeline σ) (payload : Payload) (s : σ) : Outcome Review × σ :=
  match pipeline.mutate payload s with
  | (⟨.error refusal, events⟩, s) => (⟨.error refusal, events⟩, s)
  | (⟨.ok admitted, events⟩, s) =>
    let ((verdict, more), s) := pipeline.validate { payload with job := admitted.job } s
    (⟨.ok ⟨admitted.job, admitted.warnings ++ verdict.warnings, verdict.errors⟩,
      events ++ more⟩, s)

/-- Admits a job or refuses it. -/
def enforce (pipeline : Pipeline σ) (payload : Payload) (s : σ) : Outcome Admitted × σ :=
  let (out, s) := pipeline.review payload s
  (⟨out.result.bind Review.enforced, out.events⟩, s)

/-- The names of the controllers and whether a token is resolved, as shown to an operator. -/
def describe (pipeline : Pipeline σ) : String :=
  "JobHandler \x7b mutators: " ++ quotedList (pipeline.mutators.map (·.name))
    ++ ", validators: " ++ quotedList (pipeline.validators.map (·.name))
    ++ ", resolve_token: " ++ (if pipeline.resolvesToken then "true" else "false") ++ " \x7d"

end Pipeline
end JobGate
