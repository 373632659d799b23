import JobGate.Controller
import JobGate.Job.Patch

/-!
# Proposals

What a policy or a patching webhook says about a job: operations to apply, warnings, and errors. A
proposal with errors changes nothing; otherwise its operations are applied as one patch.
-/
namespace JobGate

def PatchError.asFailure (e : PatchError) : Failure := .plain e.message [e.cause]

/-- Operations, warnings and errors for a job. -/
structure Proposal where
  patch : List Json := []
  warnings : List String := []
  errors : List String := []
  deriving DecidableEq, Inhabited

namespace Proposal

/-- A message signed by the controller that raised it. -/
def sign (name message : String) : String := message ++ " (" ++ name ++ ")"

/-- The proposal with every message signed. -/
def signed (name : String) (proposal : Proposal) : Proposal :=
  { proposal with
    warnings := proposal.warnings.map (sign name)
    errors := proposal.errors.map (sign name) }

/-- What the proposal makes of a job. -/
def mutation (proposal : Proposal) (job : Job) : Except Failure Mutation :=
  if proposal.errors.isEmpty then
    match job.patch proposal.patch with
    | .ok (job, mutated) => .ok ⟨job, mutated, proposal.warnings⟩
    | .error e => .error e.asFailure
  else .error (.many ⟨proposal.errors⟩)

/-- The proposal as a verdict; its operations do not count. -/
def verdict (proposal : Proposal) : Verdict := ⟨proposal.warnings, ⟨proposal.errors⟩⟩

end Proposal
end JobGate
