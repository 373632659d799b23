import JobGate.Blueprint
import JobGate.Rehearsal.Stage

/-!
# Scripted controllers

The controllers of a rehearsal: scripted ones that note what they are shown and do as they are
told, real ones over a scripted policy or verifier, and those that blueprints describe.
-/
namespace JobGate

/-- What a scripted mutator does. -/
inductive MutatorScript where
  | patch (ops : List Json)
  | setMetadata (key value : String)
  /-- Copies a text of the metadata to another key. -/
  | copyMeta (source target : String)
  | fail (failure : Failure)
  | leave

/-- What a scripted validator does. -/
inductive ValidatorScript where
  | fail (failure : Failure)
  | find (verdict : Verdict)

/-- What a scripted policy query gives. -/
abbrev QueryScript := Except (List String) (List Members)

/-- A mutator of a rehearsal. -/
inductive MutatorRole where
  | scripted (name : String) (resolvesToken : Bool) (script : MutatorScript)
      (warnings : List String)
  | policy (name : String) (resolvesToken : Bool) (script : QueryScript)
  | built (blueprint : Blueprint)

/-- A validator of a rehearsal. -/
inductive ValidatorRole where
  | scripted (name : String) (resolvesToken : Bool) (script : ValidatorScript)
  | policy (name : String) (resolvesToken : Bool) (script : QueryScript)
  /-- Checks images; the references to be rejected come with their messages. -/
  | image (name : String) (resolvesToken : Bool) (rejected : List (String × List String))
  | built (blueprint : Blueprint)

namespace Stage

/-- Notes that a controller was shown a payload. -/
def noteRun (name : String) (payload : Payload) (stage : Stage) : Stage :=
  { stage with ran := (name, payload.toJson.text) :: stage.ran }

end Stage

/-- What a script makes of a job. -/
def MutatorScript.apply (warnings : List String) (job : Job) :
    MutatorScript → Except Failure Mutation
  | .patch ops => (Proposal.mutation { patch := ops, warnings }) job
  | .setMetadata key value => .ok ⟨job.setMetadata key value, true, warnings⟩
  | .copyMeta source target =>
    match job.metadata? source with
    | some value => .ok ⟨job.setMetadata target value, true, warnings⟩
    | none => .ok ⟨job, false, []⟩
  | .fail failure => .error failure
  | .leave => .ok ⟨job, false, warnings⟩

/-- What a script says about a job. -/
def ValidatorScript.judge : ValidatorScript → Except Failure Verdict
  | .fail failure => .error failure
  | .find verdict => .ok verdict

/-- The policy query that a script plays. -/
def scriptedQuery (script : QueryScript) : PolicyEngine Stage where
  eval input stage := (script, { stage with queries := input.text :: stage.queries })

/-- The verifier that rejects the references of a list. -/
def scriptedVerifier (rejected : List (String × List String)) : Verifier Stage where
  verify image stage :=
    let stage := { stage with images := image :: stage.images }
    match rejected.lookup image with
    | some chain => (.error (Failure.ofChain chain), stage)
    | none => (.ok (), stage)

def MutatorRole.build (resources : Resources Stage) :
    MutatorRole → Except BuildError (Mutator Stage)
  | .scripted name resolvesToken script warnings => .ok {
      name
      resolvesToken
      mutate payload stage := (script.apply warnings payload.job, stage.noteRun name payload) }
  | .policy name resolvesToken script =>
    .ok (PolicyEngine.mutator name resolvesToken (scriptedQuery script))
  | .built blueprint => blueprint.mutator resources

def ValidatorRole.build (resources : Resources Stage) :
    ValidatorRole → Except BuildError (Validator Stage)
  | .scripted name resolvesToken script => .ok {
      name
      resolvesToken
      validate payload stage := (script.judge, stage.noteRun name payload) }
  | .policy name resolvesToken script =>
    .ok (PolicyEngine.validator name resolvesToken (scriptedQuery script))
  | .image name resolvesToken rejected =>
    .ok (imageCheck name resolvesToken (scriptedVerifier rejected))
  | .built blueprint => blueprint.validator resources

/-- The pipeline of a rehearsal. -/
def castPipeline (resources : Resources Stage) (mutators : List MutatorRole)
    (validators : List ValidatorRole) : Except BuildError (Pipeline Stage) := do
  let mutators ← mutators.mapM (MutatorRole.build resources)
  let validators ← validators.mapM (ValidatorRole.build resources)
  return ⟨mutators, validators⟩

end JobGate
