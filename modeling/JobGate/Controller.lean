import JobGate.Failure
import JobGate.Payload

/-!
# Controllers

Mutators change a job, validators judge it. Both may consult something outside, whose state has a
type of the user's choice: a controller is a function of the payload and that state. A controller
whose answer and effect do not depend on the state is a plain function of the payload.
-/
namespace JobGate

/-- What a mutator made of a job. -/
structure Mutation where
  job : Job
  /-- Whether the mutator says that it changed the job. -/
  mutated : Bool
  warnings : List String
  deriving DecidableEq, Inhabited

/-- What a validator found. -/
structure Verdict where
  warnings : List String
  errors : Causes
  deriving DecidableEq, Inhabited

/-- A verdict without findings. -/
def Verdict.clean : Verdict := ⟨[], Causes.none⟩

/-- A mutator with its configured name. -/
structure Mutator (σ : Type) where
  name : String
  /-- Whether the caller's token is to be resolved before the mutator runs. -/
  resolvesToken : Bool
  mutate : Payload → σ → Except Failure Mutation × σ

/-- A validator with its configured name. -/
structure Validator (σ : Type) where
  name : String
  /-- Whether the caller's token is to be resolved before the validator runs. -/
  resolvesToken : Bool
  validate : Payload → σ → Except Failure Verdict × σ

/-- A counted step of a run. -/
inductive Event where
  | mutatorWarnings (name : String) (count : Nat)
  | mutatorError (name : String)
  | mutatorMutation (name : String)
  | validatorWarnings (name : String) (count : Nat)
  | validatorErrors (name : String) (count : Nat)
  deriving DecidableEq

/-- What a successful mutator is counted for. -/
def Mutation.events (name : String) (mutation : Mutation) : List Event :=
  (if mutation.mutated then [.mutatorMutation name] else [])
    ++ (if mutation.warnings.isEmpty then [] else [.mutatorWarnings name mutation.warnings.length])

/-- What a validator that gave a verdict is counted for. -/
def Verdict.events (name : String) (verdict : Verdict) : List Event :=
  (if verdict.warnings.isEmpty then [] else [.validatorWarnings name verdict.warnings.length])
    ++ (if verdict.errors.isEmpty then [] else [.validatorErrors name verdict.errors.count])

/-- The causes that a failed validator contributes: those reported together, bare, or else the
whole failure in one line with the validator's name. -/
def Failure.asCauses (name : String) (failure : Failure) : Causes :=
  match failure.causes? with
  | some causes => causes
  | none => ⟨[failure.fullText ++ " (" ++ name ++ ")"]⟩

end JobGate
