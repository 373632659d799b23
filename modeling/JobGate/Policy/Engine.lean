import JobGate.Json.Writer
import JobGate.Proposal

/-!
# Policy engines

A policy engine evaluates the payload's document and yields sets of bindings. Only the first set
counts, and of it the lists bound to `patch`, `warnings` and `errors`, which are taken out of it one
after another; one that is absent or no list is empty.
-/
namespace JobGate

/-- Evaluates a document to sets of bindings, or fails with a chain of messages. -/
structure PolicyEngine (σ : Type) where
  eval : Json → σ → Except (List String) (List Members) × σ

/-- Why a policy says nothing about a job. -/
inductive PolicyError where
  /-- The evaluation failed; the messages, outermost first. -/
  | eval (chain : List String)
  | noResult
  deriving DecidableEq

namespace PolicyError

def message : PolicyError → String
  | .eval chain => "failed to evaluate policy: " ++ chain.headD ""
  | .noResult => "no result set returned, maybe the query is wrong?"

/-- The failure of a controller that meets the error. -/
def asFailure (e : PolicyError) : Failure :=
  .plain e.message <| match e with
    | .eval chain => chain
    | .noResult => []

end PolicyError

/-- Takes what a name is bound to out of bindings, as a list; one that is no list is empty. -/
def Members.takeList (name : String) (bindings : Members) : List Json × Members :=
  (((bindings.get? name).bind Json.array?).getD [], bindings.erase name)

/-- A message: the text of a string, or the text of any other document. -/
def messageOf : Json → String
  | .string s => s
  | v => v.text

/-- The proposal that bindings make. -/
def Proposal.ofBindings (bindings : Members) : Proposal :=
  let (patch, bindings) := bindings.takeList "patch"
  let (warnings, bindings) := bindings.takeList "warnings"
  let (errors, _) := bindings.takeList "errors"
  ⟨patch, warnings.map messageOf, errors.map messageOf⟩

/-- The proposal of the first set, if there is one. -/
def Proposal.ofSets : List Members → Except PolicyError Proposal
  | [] => .error .noResult
  | bindings :: _ => .ok (ofBindings bindings)

namespace PolicyEngine

variable {σ : Type}

/-- Asks for the proposal on a payload. -/
def ask (engine : PolicyEngine σ) (payload : Payload) (s : σ) : Except PolicyError Proposal × σ :=
  match engine.eval payload.toJson s with
  | (.error chain, s) => (.error (.eval chain), s)
  | (.ok sets, s) => (Proposal.ofSets sets, s)

/-- Changes jobs as a policy proposes. -/
def mutator (name : String) (resolvesToken : Bool) (engine : PolicyEngine σ) : Mutator σ where
  name
  resolvesToken
  mutate payload s :=
    match engine.ask payload s with
    | (.error e, s) => (.error e.asFailure, s)
    | (.ok proposal, s) => ((proposal.signed name).mutation payload.job, s)

/-- Judges jobs as a policy proposes. -/
def validator (name : String) (resolvesToken : Bool) (engine : PolicyEngine σ) : Validator σ where
  name
  resolvesToken
  validate payload s :=
    match engine.ask payload s with
    | (.error e, s) => (.error e.asFailure, s)
    | (.ok proposal, s) => (.ok (proposal.signed name).verdict, s)

end PolicyEngine
end JobGate
