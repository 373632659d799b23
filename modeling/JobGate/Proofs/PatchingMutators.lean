import JobGate.Proofs.CollaboratorFailures
import JobGate.Proofs.PolicyBindings

/-!
What comes of a proposal. One with errors refuses the job whatever it wants to patch; any other
changes the job as its operations do, or fails as they fail. A policy proposes by the bindings of a
set, a patching webhook by a reply; where they propose the same, they make the same of every job,
up to the signature under the policy's messages (`patching_mutators_agree`).
-/
namespace JobGate

variable {σ τ α : Type}

namespace Job

open Operation

/-- The operations are well formed, and lead from one job to the other. -/
def PatchedBy (ops : List Json) (job patched : Job) : Prop :=
  ∃ operations, decodeOperations ops = .ok operations ∧ Run operations job.toJson patched.toJson

theorem patch_eq_ok_iff {ops : List Json} {job patched : Job} {mutated : Bool} :
    job.patch ops = .ok (patched, mutated) ↔
      PatchedBy ops job patched ∧ mutated = !ops.isEmpty := by
  by_cases none : ops = []
  · subst none
    constructor
    · intro run
      obtain ⟨rfl, rfl⟩ := Prod.mk.inj (Except.ok.inj run)
      exact ⟨⟨[], rfl, .nil _⟩, rfl⟩
    · rintro ⟨⟨operations, read, run⟩, rfl⟩
      obtain rfl : [] = operations := Except.ok.inj read
      have ran : applyOperations 0 [] job.toJson = .ok patched.toJson :=
        applyOperations_ok_iff.mpr run
      have still : job.toJson = patched.toJson := Except.ok.inj ran
      obtain rfl : job = patched := congrArg Job.mk (Json.object.inj still)
      rfl
  · have some : ops.isEmpty = false := by simpa using none
    rw [patch_ok_iff none, some]
    exact and_comm

end Job

namespace Proposal

variable {proposal : Proposal} {job : Job}

theorem mutation_of_errors (some : proposal.errors ≠ []) (job : Job) :
    proposal.mutation job = .error (.many ⟨proposal.errors⟩) := by
  simp [mutation, some]

theorem mutation_of_patch_error {e : PatchError} (none : proposal.errors = [])
    (failed : job.patch proposal.patch = .error e) :
    proposal.mutation job = .error e.asFailure := by
  simp [mutation, none, failed]

theorem mutation_ok_iff {mutation : Mutation} :
    proposal.mutation job = .ok mutation ↔
      proposal.errors = [] ∧ Job.PatchedBy proposal.patch job mutation.job ∧
        mutation.mutated = !proposal.patch.isEmpty ∧ mutation.warnings = proposal.warnings := by
  by_cases none : proposal.errors = []
  · rcases applied : job.patch proposal.patch with e | ⟨patched, mutated⟩
    · have stuck : ¬ Job.PatchedBy proposal.patch job mutation.job := fun led => by
        rw [Job.patch_eq_ok_iff.mpr ⟨led, rfl⟩] at applied
        cases applied
      simp [mutation_of_patch_error none applied, stuck]
    · obtain ⟨led, rfl⟩ := Job.patch_eq_ok_iff.mp applied
      constructor
      · intro made
        obtain rfl : ⟨patched, !proposal.patch.isEmpty, proposal.warnings⟩ = mutation := by
          simpa [Proposal.mutation, none, applied] using made
        exact ⟨none, led, rfl, rfl⟩
      · rintro ⟨-, again, flag, warnings⟩
        rw [Job.patch_eq_ok_iff.mpr ⟨again, rfl⟩] at applied
        obtain ⟨rfl, -⟩ := Prod.mk.inj (Except.ok.inj applied)
        simp [Proposal.mutation, none, Job.patch_eq_ok_iff.mpr ⟨again, rfl⟩, ← flag, ← warnings]
  · simp [mutation_of_errors none, none]

theorem mutation_succeeds_iff :
    (∃ mutation, proposal.mutation job = .ok mutation) ↔
      proposal.errors = [] ∧ ∃ patched, Job.PatchedBy proposal.patch job patched := by
  simp only [mutation_ok_iff]
  constructor
  · rintro ⟨mutation, none, led, -⟩
    exact ⟨none, mutation.job, led⟩
  · rintro ⟨none, patched, led⟩
    exact ⟨⟨patched, !proposal.patch.isEmpty, proposal.warnings⟩, none, led, rfl, rfl⟩

end Proposal

/-- The bindings of a set make up a proposal: each list is bound to its name. -/
structure Proposal.BoundIn (proposal : Proposal) (bindings : Members) : Prop where
  patch : bindings.get? "patch" = some (.array proposal.patch)
  warnings : bindings.get? "warnings" = some (Json.ofStrings proposal.warnings)
  errors : bindings.get? "errors" = some (Json.ofStrings proposal.errors)

theorem Proposal.BoundIn.ofBindings {proposal : Proposal} {bindings : Members}
    (bound : proposal.BoundIn bindings) (once : bindings.keys.Nodup) :
    ofBindings bindings = proposal := by
  have texts (messages : List String) : (messages.map Json.string).map messageOf = messages := by
    rw [List.map_map]
    exact List.map_id messages
  rw [ofBindings_eq once]
  simp [Members.listAt, bound.patch, bound.warnings, bound.errors, Json.ofStrings, Json.array?,
    texts]

/-- The endpoint answers with success, and the whole body that comes decodes as the value. -/
def Network.Answers (net : Network σ) (endpoint : Endpoint) (reads : Decoder α) (payload : Payload)
    (s : σ) (a : α) : Prop :=
  ∃ reply, (net.send .consult (endpoint.consultation payload) s).1 = .reply reply ∧
    reply.complete = true ∧ isSuccess reply.status = true ∧ decodeBytes reads reply.body = .ok a

theorem Network.consult_ok_iff {net : Network σ} {endpoint : Endpoint} {reads : Decoder α}
    {payload : Payload} {s : σ} {a : α} :
    (net.consult endpoint reads payload s).1 = .ok a ↔ net.Answers endpoint reads payload s a := by
  rcases went : net.send .consult (endpoint.consultation payload) s with ⟨reply | e | _, t⟩
  · constructor
    · intro asked
      have answered : reply.answer reads = .ok a := by
        simpa [Network.consult, Network.ask, went] using asked
      obtain ⟨complete, success, decoded⟩ := Reply.answer_ok answered
      exact ⟨reply, by rw [went], complete, success, decoded⟩
    · rintro ⟨other, same, complete, success, decoded⟩
      obtain rfl : reply = other := by simpa [went] using same
      simp [Network.consult, Network.ask, went, Reply.answer, complete, success, decoded]
  · simp [Network.consult, Network.ask, Network.Answers, went]
  · simp [Network.consult, Network.ask, Network.Answers, went]

theorem PolicyEngine.mutate_of_ask {engine : PolicyEngine σ} {payload : Payload} {s : σ}
    {proposal : Proposal} (asked : (engine.ask payload s).1 = .ok proposal) (name : String)
    (token : Bool) :
    ((engine.mutator name token).mutate payload s).1 =
      (proposal.signed name).mutation payload.job := by
  rcases answered : engine.ask payload s with ⟨result, t⟩
  obtain rfl : result = .ok proposal := by simpa [answered] using asked
  simp [PolicyEngine.mutator, answered]

theorem patchWebhook_mutate_of_consult {net : Network σ} {endpoint : Endpoint} {payload : Payload}
    {s : σ} {proposal : Proposal}
    (asked : (net.consult endpoint Proposal.decoder payload s).1 = .ok proposal) (name : String)
    (token : Bool) :
    ((patchWebhook net name token endpoint).mutate payload s).1 =
      proposal.mutation payload.job := by
  rcases answered : net.consult endpoint Proposal.decoder payload s with ⟨result, t⟩
  obtain rfl : result = .ok proposal := by simpa [answered] using asked
  simp [patchWebhook, answered]

/-- What a policy and a webhook make of a job for which they propose the same. -/
structure Proposal.Agreement (proposal : Proposal) (job : Job) (name : String)
    (policy hook : Except Failure Mutation) : Prop where
  alike : (∃ mutation, policy = .ok mutation) ↔ ∃ mutation, hook = .ok mutation
  /-- Errors refuse the job, whatever the operations are. -/
  refused : proposal.errors ≠ [] → hook = .error (.many ⟨proposal.errors⟩) ∧
    policy = .error (.many ⟨proposal.errors.map fun text => text ++ " (" ++ name ++ ")"⟩)
  /-- Operations that lead to no job fail, with one error for both. -/
  stuck : proposal.errors = [] → (∀ patched, ¬ Job.PatchedBy proposal.patch job patched) →
    ∃ e, job.patch proposal.patch = .error e ∧ hook = .error e.asFailure ∧
      policy = .error e.asFailure
  /-- Operations that lead to a job give it, with the flag up if there is an operation. -/
  patched : proposal.errors = [] → ∀ patched, Job.PatchedBy proposal.patch job patched →
    hook = .ok ⟨patched, !proposal.patch.isEmpty, proposal.warnings⟩ ∧
      policy = .ok ⟨patched, !proposal.patch.isEmpty,
        proposal.warnings.map fun text => text ++ " (" ++ name ++ ")"⟩

theorem Proposal.agreement (proposal : Proposal) (job : Job) (name : String) :
    proposal.Agreement job name ((proposal.signed name).mutation job) (proposal.mutation job) := by
  have signs : (fun text => text ++ " (" ++ name ++ ")") = sign name := rfl
  have refuses (some : proposal.errors ≠ []) : (proposal.signed name).errors ≠ [] := by
    simpa [signed] using some
  have accepts (none : proposal.errors = []) : (proposal.signed name).errors = [] := by
    simpa [signed] using none
  constructor
  · rw [mutation_succeeds_iff, mutation_succeeds_iff]
    simp [signed]
  · intro some
    rw [signs]
    exact ⟨mutation_of_errors some job, mutation_of_errors (refuses some) job⟩
  · intro none stuck
    rcases applied : job.patch proposal.patch with e | ⟨patched, mutated⟩
    · exact ⟨e, rfl, mutation_of_patch_error none applied,
        mutation_of_patch_error (accepts none) applied⟩
    · exact absurd (Job.patch_eq_ok_iff.mp applied).1 (stuck patched)
  · intro none patched led
    rw [signs]
    exact ⟨mutation_ok_iff.mpr ⟨none, led, rfl, rfl⟩,
      mutation_ok_iff.mpr ⟨accepts none, led, rfl, rfl⟩⟩

/-- A policy whose first set binds the lists of a proposal, and a webhook that answers with the same
    lists, agree on every job: both refuse it over errors, both fail with the error of the patch, or
    both give the same job with the same flag. Only the policy signs what it says. -/
theorem patching_mutators_agree {engine : PolicyEngine σ} {net : Network τ} {endpoint : Endpoint}
    {payload : Payload} {s : σ} {t : τ} {proposal : Proposal} {first : Members}
    {later : List Members} (yields : engine.Yields payload s (first :: later))
    (bound : proposal.BoundIn first)
    (answers : net.Answers endpoint Proposal.decoder payload t proposal)
    (name hook : String) (policyToken hookToken : Bool) :
    proposal.Agreement payload.job name ((engine.mutator name policyToken).mutate payload s).1
      ((patchWebhook net hook hookToken endpoint).mutate payload t).1 := by
  obtain ⟨asked, once⟩ := yields.ask_cons
  rw [bound.ofBindings once] at asked
  have consulted := Network.consult_ok_iff.mpr answers
  rw [PolicyEngine.mutate_of_ask asked, patchWebhook_mutate_of_consult consulted]
  exact proposal.agreement payload.job name

def describing : Proposal := ⟨Job.described, ["metadata added"], []⟩

/-- A set that binds the three lists of it, and one that no query asked for. -/
def describingSet : Members :=
  [("echo", .null), ("errors", .array []), ("patch", .array Job.described),
    ("warnings", .array [.string "metadata added"])]

/-- A network whose only endpoint answers with the lists; errors are left out. -/
def describingNetwork : Network Unit where
  dispatch _ _ s := (.reply {
    status := 201
    headers := []
    body := Utf8.encode <| "\x7b\"warnings\":[\"metadata added\"],\"patch\":[\x7b\"op\":\"add\","
      ++ "\"path\":\"/Meta\",\"value\":\x7b\x7d\x7d]\x7d" }, s)

/-- A policy and a webhook give an empty job metadata, and the policy signs its warning. -/
theorem empty_job_described_twice :
    (PolicyEngine.fixed [describingSet]).Yields ⟨Job.empty, none⟩ () [describingSet] ∧
      describing.BoundIn describingSet ∧
      describingNetwork.Answers Gateway.hookEndpoint Proposal.decoder ⟨Job.empty, none⟩ ()
        describing ∧
      ((patchWebhook describingNetwork "hook" false Gateway.hookEndpoint).mutate
        ⟨Job.empty, none⟩ ()).1 = .ok ⟨⟨[("Meta", .object [])]⟩, true, ["metadata added"]⟩ ∧
      (((PolicyEngine.fixed [describingSet]).mutator "owner" true).mutate ⟨Job.empty, none⟩ ()).1 =
        .ok ⟨⟨[("Meta", .object [])]⟩, true, ["metadata added (owner)"]⟩ := by
  have yields : (PolicyEngine.fixed [describingSet]).Yields ⟨Job.empty, none⟩ ()
      [describingSet] := ⟨rfl, by decide⟩
  have bound : describing.BoundIn describingSet := ⟨rfl, rfl, rfl⟩
  have answers : describingNetwork.Answers Gateway.hookEndpoint Proposal.decoder
      ⟨Job.empty, none⟩ () describing := ⟨_, rfl, rfl, rfl, by decide +kernel⟩
  have applied : Job.empty.patch describing.patch = .ok (⟨[("Meta", .object [])]⟩, true) := by
    decide +kernel
  obtain ⟨led, -⟩ := Job.patch_eq_ok_iff.mp applied
  have agreement := patching_mutators_agree yields bound answers "owner" "hook" true false
  exact ⟨yields, bound, answers, agreement.patched rfl _ led⟩

end JobGate
