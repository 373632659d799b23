import JobGate.Blueprint
import JobGate.Proofs.Results
import JobGate.Proofs.SteadyRuns

/-!
What is said to those around a gate. A network and a policy engine can be tapped: then the state
also holds the requests and documents that were handed to them so far. Controllers that ask a
webhook, an engine or a verifier are steady as far as what they ask is, and so is every pipeline
that is built of such controllers (`Pipeline.build_steady`).
-/
namespace JobGate

variable {σ τ α : Type} {alike : σ → σ → Prop}

inductive Contact where
  /-- A request to the backend, a webhook or a verifier. -/
  | request (errand : Errand) (request : Request)
  /-- A document that a policy engine evaluates. -/
  | document (document : Json)
  deriving DecidableEq

/-- A state with what was said so far. -/
abbrev Tapped (τ : Type) := τ × List Contact

/-- The action that also writes down what it says. -/
def tap (contact : Contact) (action : τ → α × τ) (w : Tapped τ) : α × Tapped τ :=
  ((action w.1).1, ((action w.1).2, w.2 ++ [contact]))

/-- The network that writes down the requests that it is handed. -/
def Network.tapped (net : Network τ) : Network (Tapped τ) where
  dispatch errand request := tap (.request errand request) (net.dispatch errand request)

/-- The engine that writes down the documents that it evaluates. -/
def PolicyEngine.tapped (engine : PolicyEngine τ) : PolicyEngine (Tapped τ) where
  eval document := tap (.document document) (engine.eval document)

section
variable {net : Network σ}

theorem Network.send_steady {errand : Errand} {request : Request}
    (steady : Steady alike (net.dispatch errand request)) :
    Steady alike (net.send errand request) := by
  intro s t same
  by_cases absolute : request.uri.isAbsolute
  · by_cases http : request.uri.scheme = some "http"
    · simpa [send, absolute, http] using steady s t same
    · simpa [send, absolute, http] using same
  · simpa [send, absolute] using same

theorem Network.ask_steady {errand : Errand} {request : Request}
    (steady : Steady alike (net.dispatch errand request)) :
    Steady alike (net.ask errand request) := by
  intro s t same
  obtain ⟨delivery, s', t', here, there, after⟩ := (send_steady steady).results same
  cases delivery <;> simpa [ask, here, there] using after

variable (consults : ∀ request, Steady alike (net.dispatch .consult request))
  (endpoint : Endpoint)
include consults

theorem Network.consult_steady (answer : Decoder α) (payload : Payload) :
    Steady alike (net.consult endpoint answer payload) := by
  intro s t same
  obtain ⟨result, s', t', here, there, after⟩ :=
    (ask_steady (consults (endpoint.consultation payload))).results same
  cases result <;> simpa [consult, here, there] using after

theorem patchWebhook_steady (name : String) (token : Bool) (payload : Payload) :
    Steady alike ((patchWebhook net name token endpoint).mutate payload) := by
  intro s t same
  obtain ⟨result, s', t', here, there, after⟩ :=
    (Network.consult_steady consults endpoint Proposal.decoder payload).results same
  cases result <;> simpa [patchWebhook, here, there] using after

theorem documentWebhook_steady (name : String) (token : Bool) (payload : Payload) :
    Steady alike ((documentWebhook net name token endpoint).mutate payload) := by
  intro s t same
  obtain ⟨result, s', t', here, there, after⟩ :=
    (Network.consult_steady consults endpoint (Decoder.optional Job.decoder) payload).results same
  rcases result with e | answer
  · simpa [documentWebhook, here, there] using after
  · rcases replaced : payload.job.replacement answer with e | mutation
    · simpa [documentWebhook, here, there, replaced] using after
    · simpa [documentWebhook, here, there, replaced] using after

theorem verdictWebhook_steady (name : String) (token : Bool) (payload : Payload) :
    Steady alike ((verdictWebhook net name token endpoint).validate payload) := by
  intro s t same
  obtain ⟨result, s', t', here, there, after⟩ :=
    (Network.consult_steady consults endpoint Verdict.decoder payload).results same
  cases result <;> simpa [verdictWebhook, here, there] using after

theorem Verifier.overNetwork_steady (image : String) :
    Steady alike ((Verifier.overNetwork net endpoint).verify image) := by
  intro s t same
  obtain ⟨result, s', t', here, there, after⟩ :=
    (Network.ask_steady (consults (endpoint.request [] (imageQuestion image)))).results same
  cases result <;> simpa [overNetwork, here, there] using after

end

section
variable {engine : PolicyEngine σ} (evaluates : ∀ document, Steady alike (engine.eval document))
include evaluates

theorem PolicyEngine.ask_steady (payload : Payload) : Steady alike (engine.ask payload) := by
  intro s t same
  obtain ⟨result, s', t', here, there, after⟩ := (evaluates payload.toJson).results same
  cases result <;> simpa [ask, here, there] using after

theorem PolicyEngine.mutator_steady (name : String) (token : Bool) (payload : Payload) :
    Steady alike ((engine.mutator name token).mutate payload) := by
  intro s t same
  obtain ⟨result, s', t', here, there, after⟩ := (ask_steady evaluates payload).results same
  cases result <;> simpa [mutator, here, there] using after

theorem PolicyEngine.validator_steady (name : String) (token : Bool) (payload : Payload) :
    Steady alike ((engine.validator name token).validate payload) := by
  intro s t same
  obtain ⟨result, s', t', here, there, after⟩ := (ask_steady evaluates payload).results same
  cases result <;> simpa [validator, here, there] using after

end

section
variable {verifier : Verifier σ} (verifies : ∀ image, Steady alike (verifier.verify image))
include verifies

theorem Verifier.firstRejection_steady (images : List String) :
    Steady alike (verifier.firstRejection images) := by
  induction images with
  | nil => exact .done _
  | cons image rest ih =>
    intro s t same
    obtain ⟨result, s', t', here, there, after⟩ := (verifies image).results same
    rcases result with failure | ⟨⟩
    · simpa [firstRejection, here, there] using after
    · simpa [firstRejection, here, there] using ih s' t' after

theorem imageCheck_steady (name : String) (token : Bool) (payload : Payload) :
    Steady alike ((imageCheck name token verifier).validate payload) := by
  intro s t same
  obtain ⟨result, s', t', here, there, after⟩ :=
    (Verifier.firstRejection_steady verifies payload.job.images).results same
  cases result <;> simpa [imageCheck, here, there] using after

end

/-- The mutators that a blueprint may be built to. -/
inductive Blueprint.MakesMutator (resources : Resources σ) (blueprint : Blueprint) :
    Mutator σ → Prop where
  | policy {engine : PolicyEngine σ} (asked : blueprint.policyEngine resources = .ok engine) :
      MakesMutator resources blueprint (engine.mutator blueprint.name blueprint.resolvesToken)
  | patchWebhook (endpoint : Endpoint) : MakesMutator resources blueprint
      (patchWebhook resources.network blueprint.name blueprint.resolvesToken endpoint)
  | documentWebhook (endpoint : Endpoint) : MakesMutator resources blueprint
      (documentWebhook resources.network blueprint.name blueprint.resolvesToken endpoint)

theorem Blueprint.mutator_ok {resources : Resources σ} {blueprint : Blueprint} {m : Mutator σ}
    (built : blueprint.mutator resources = .ok m) : blueprint.MakesMutator resources m := by
  unfold mutator at built
  split at built
  · cases built
  · rename_i kind known
    split at built
    · rename_i other made
      obtain rfl := Except.ok.inj built
      cases kind with
      | policy =>
        obtain ⟨engine, asked, made⟩ := bind_ok made
        obtain rfl := Except.ok.inj made
        exact .policy asked
      | patchWebhook =>
        obtain ⟨endpoint, _, made⟩ := bind_ok made
        obtain rfl := Except.ok.inj made
        exact .patchWebhook endpoint
      | documentWebhook =>
        obtain ⟨endpoint, _, made⟩ := bind_ok made
        obtain rfl := Except.ok.inj made
        exact .documentWebhook endpoint
    · cases built

/-- Every controller of a pipeline that is built is built of a blueprint. -/
theorem Pipeline.build_ok {resources : Resources σ} {mutators validators : List Blueprint}
    {pipeline : Pipeline σ} (built : Pipeline.build resources mutators validators = .ok pipeline) :
    (∀ m ∈ pipeline.mutators, ∃ blueprint ∈ mutators, blueprint.mutator resources = .ok m) ∧
      ∀ v ∈ pipeline.validators, ∃ blueprint ∈ validators,
        blueprint.validator resources = .ok v := by
  obtain ⟨ms, mutated, built⟩ := bind_ok built
  obtain ⟨vs, validated, built⟩ := bind_ok built
  obtain rfl := Except.ok.inj built
  exact ⟨mapM_ok mutated, mapM_ok validated⟩

/-- What controllers are built with is steady: webhooks answer alike in states that are alike, and
    so do the engines of policies, if the verifier does that they may ask. -/
structure Resources.AllSteady (resources : Resources σ) (alike : σ → σ → Prop) : Prop where
  consults : ∀ request, Steady alike (resources.network.dispatch .consult request)
  policies : ∀ path policy, resources.policy? path = some policy →
    ∀ query verifier, (∀ v, verifier = some v → ∀ image, Steady alike (v.verify image)) →
      ∀ document, Steady alike ((policy query verifier).eval document)

section
variable {resources : Resources σ} (steady : resources.AllSteady alike)
include steady

namespace Blueprint

variable {blueprint : Blueprint}

theorem policyEngine_steady {engine : PolicyEngine σ}
    (built : blueprint.policyEngine resources = .ok engine) (document : Json) :
    Steady alike (engine.eval document) := by
  obtain ⟨plan, _, built⟩ := bind_ok built
  obtain ⟨verifier, _, built⟩ := bind_ok built
  split at built
  · rename_i policy found
    obtain rfl := Except.ok.inj built
    refine steady.policies plan.path policy found plan.query _ ?_ document
    intro v asked
    obtain ⟨endpoint, _, rfl⟩ := Option.map_eq_some_iff.mp asked
    exact Verifier.overNetwork_steady steady.consults endpoint
  · cases built

theorem mutator_steady {m : Mutator σ} (built : blueprint.mutator resources = .ok m)
    (payload : Payload) : Steady alike (m.mutate payload) := by
  cases mutator_ok built with
  | policy asked => exact PolicyEngine.mutator_steady (policyEngine_steady steady asked) _ _ payload
  | patchWebhook endpoint => exact patchWebhook_steady steady.consults endpoint _ _ payload
  | documentWebhook endpoint => exact documentWebhook_steady steady.consults endpoint _ _ payload

theorem validator_steady {v : Validator σ} (built : blueprint.validator resources = .ok v)
    (payload : Payload) : Steady alike (v.validate payload) := by
  unfold validator at built
  split at built
  · cases built
  · rename_i kind known
    split at built
    · rename_i other made
      obtain rfl := Except.ok.inj built
      cases kind with
      | policy =>
        obtain ⟨engine, asked, made⟩ := bind_ok made
        obtain rfl := Except.ok.inj made
        exact PolicyEngine.validator_steady (policyEngine_steady steady asked) _ _ payload
      | webhook =>
        obtain ⟨endpoint, _, made⟩ := bind_ok made
        obtain rfl := Except.ok.inj made
        exact verdictWebhook_steady steady.consults endpoint _ _ payload
      | image =>
        obtain ⟨endpoint, _, made⟩ := bind_ok made
        obtain rfl := Except.ok.inj made
        exact imageCheck_steady (Verifier.overNetwork_steady steady.consults endpoint) _ _ payload
    · cases built

end Blueprint

/-- A pipeline that is built of blueprints is steady if what it is built with is. -/
theorem Pipeline.build_steady {mutators validators : List Blueprint} {pipeline : Pipeline σ}
    (built : Pipeline.build resources mutators validators = .ok pipeline) :
    pipeline.AllSteady alike := by
  obtain ⟨mutated, validated⟩ := Pipeline.build_ok built
  constructor
  · intro m member
    obtain ⟨blueprint, _, made⟩ := mutated m member
    exact Blueprint.mutator_steady steady made
  · intro v member
    obtain ⟨blueprint, _, made⟩ := validated v member
    exact Blueprint.validator_steady steady made

end

end JobGate
