import JobGate.Proofs.Contacts

/-!
Pipelines built of blueprints. A blueprint is accepted if its kind is known for its role and its
parameters name an endpoint, or a policy that is there (`mutator_accepted_iff`,
`validator_accepted_iff`). A run over blueprints makes one controller of each, in order, or fails
with the first that is not accepted (`build_builtOf`, `build_error_iff`). So a pipeline is built of
all of its blueprints or not at all (`built_whole_or_not`).
-/
namespace JobGate

variable {σ : Type} {resources : Resources σ} {blueprint : Blueprint}

theorem mem_of_lookup {α : Type} {key : String} {a : α} {pairs : List (String × α)}
    (found : pairs.lookup key = some a) : (key, a) ∈ pairs := by
  obtain ⟨earlier, later, rfl, -⟩ := List.lookup_eq_some_iff.mp found
  simp

/-- The target is a URI, and the method, if one is named, is the name of one. -/
structure EndpointPlan.Usable (plan : EndpointPlan) : Prop where
  target : ∃ uri, Uri.parse plan.target = .ok uri
  method : ∀ text, plan.method = some text → ∃ name, method? (upperAscii text) = some name

theorem EndpointPlan.usable_iff {plan : EndpointPlan} :
    plan.Usable ↔ ∃ endpoint, plan.build = .ok endpoint := by
  constructor
  · rintro ⟨⟨uri, target⟩, method⟩
    rcases named : plan.method with _ | text
    · exact ⟨⟨uri, "POST"⟩, by simp [build, target, named, bind, Except.bind, pure, Except.pure]⟩
    · obtain ⟨name, known⟩ := method text named
      exact ⟨⟨uri, name⟩, by
        simp [build, target, named, known, bind, Except.bind, pure, Except.pure]⟩
  · rintro ⟨endpoint, built⟩
    rcases target : Uri.parse plan.target with e | uri
    · simp [build, target, bind, Except.bind, throw, throwThe, MonadExceptOf.throw] at built
    · refine ⟨⟨uri, target⟩, fun text named => ?_⟩
      rcases known : method? (upperAscii text) with _ | name
      · simp [build, target, named, known, bind, Except.bind, pure, Except.pure, throw, throwThe,
          MonadExceptOf.throw] at built
      · exact ⟨name, rfl⟩

namespace Blueprint

/-- A parameter is there, and is a value of the kind that is wanted. -/
def Gives {α : Type} (blueprint : Blueprint) (key : String) (value : Decoder α) (a : α) : Prop :=
  ∃ v, Members.get? key blueprint.parameters = some v ∧ v.decode value = .ok a

def GivesEndpoint (blueprint : Blueprint) (key : String) : Prop :=
  ∃ plan, blueprint.Gives key EndpointPlan.decoder plan ∧ plan.Usable

/-- A parameter names a policy that is there, and an endpoint of a verifier if it names one at all. -/
def GivesPolicy (blueprint : Blueprint) (resources : Resources σ) : Prop :=
  ∃ plan, blueprint.Gives "opa_rule" PolicyPlan.decoder plan ∧
    (∀ verifier, plan.verifier = some verifier → verifier.Usable) ∧
    ∃ policy, resources.policy? plan.path = some policy

/-- The kind is one of a mutator, and the parameters are what mutators of this kind want. -/
inductive AcceptedMutator (resources : Resources σ) (blueprint : Blueprint) : Prop where
  | policy (kind : blueprint.kind = "opa_json_patch") (given : blueprint.GivesPolicy resources)
  | patchWebhook (kind : blueprint.kind = "json_patch_webhook")
      (given : blueprint.GivesEndpoint "webhook")
  | documentWebhook (kind : blueprint.kind = "webhook") (given : blueprint.GivesEndpoint "webhook")

/-- The kind is one of a validator, and the parameters are what validators of this kind want. -/
inductive AcceptedValidator (resources : Resources σ) (blueprint : Blueprint) : Prop where
  | policy (kind : blueprint.kind = "opa") (given : blueprint.GivesPolicy resources)
  | webhook (kind : blueprint.kind = "webhook") (given : blueprint.GivesEndpoint "webhook")
  | image (kind : blueprint.kind = "image") (given : blueprint.GivesEndpoint "verifier")

theorem parameter_ok_iff {α : Type} {key : String} {value : Decoder α} {a : α} :
    blueprint.parameter key value = .ok a ↔ blueprint.Gives key value a := by
  rcases there : Members.get? key blueprint.parameters with _ | v
  · simp [parameter, Gives, there, Decoder.required, bind, Except.bind]
  · rcases decoded : v.decode value with e | b
    · simp [parameter, Gives, there, decoded, Decoder.required, bind, Except.bind]
    · simp [parameter, Gives, there, decoded, Decoder.required, bind, Except.bind]

theorem givesEndpoint_iff {key : String} :
    blueprint.GivesEndpoint key ↔ ∃ endpoint, blueprint.endpoint key = .ok endpoint := by
  constructor
  · rintro ⟨plan, given, usable⟩
    obtain ⟨made, built⟩ := EndpointPlan.usable_iff.mp usable
    exact ⟨made, by simp [endpoint, parameter_ok_iff.mpr given, built, bind, Except.bind]⟩
  · rintro ⟨endpoint, built⟩
    obtain ⟨plan, given, built⟩ := bind_ok built
    exact ⟨plan, parameter_ok_iff.mp given, EndpointPlan.usable_iff.mpr ⟨endpoint, built⟩⟩

theorem givesPolicy_iff :
    blueprint.GivesPolicy resources ↔ ∃ engine, blueprint.policyEngine resources = .ok engine := by
  constructor
  · rintro ⟨plan, given, usable, policy, loaded⟩
    have given := parameter_ok_iff.mpr given
    rcases verified : plan.verifier with _ | verifier
    · exact ⟨policy plan.query none, by
        simp [policyEngine, given, verified, loaded, bind, Except.bind, pure, Except.pure]⟩
    · obtain ⟨endpoint, built⟩ := EndpointPlan.usable_iff.mp (usable verifier verified)
      exact ⟨policy plan.query (some (Verifier.overNetwork resources.network endpoint)), by
        simp [policyEngine, given, verified, built, loaded, bind, Except.bind, pure, Except.pure]⟩
  · rintro ⟨engine, built⟩
    obtain ⟨plan, given, built⟩ := bind_ok built
    obtain ⟨verifier, verified, built⟩ := bind_ok built
    refine ⟨plan, parameter_ok_iff.mp given, ?_, ?_⟩
    · intro planned there
      rw [there] at verified
      obtain ⟨endpoint, made, -⟩ := map_ok verified
      exact EndpointPlan.usable_iff.mpr ⟨endpoint, made⟩
    · rcases loaded : resources.policy? plan.path with _ | policy
      · rw [loaded] at built
        cases built
      · exact ⟨policy, rfl⟩

/-! ## Accepted blueprints -/

theorem mutator_ok_iff {m : Mutator σ} :
    blueprint.mutator resources = .ok m ↔
      ∃ kind, MutatorKind.names.lookup blueprint.kind = some kind ∧
        blueprint.mutatorOfKind resources kind = .ok m := by
  rcases known : MutatorKind.names.lookup blueprint.kind with _ | kind
  · simp [mutator, known]
  · rcases made : blueprint.mutatorOfKind resources kind with e | other <;>
      simp [mutator, known, made]

theorem validator_ok_iff {v : Validator σ} :
    blueprint.validator resources = .ok v ↔
      ∃ kind, ValidatorKind.names.lookup blueprint.kind = some kind ∧
        blueprint.validatorOfKind resources kind = .ok v := by
  rcases known : ValidatorKind.names.lookup blueprint.kind with _ | kind
  · simp [validator, known]
  · rcases made : blueprint.validatorOfKind resources kind with e | other <;>
      simp [validator, known, made]

theorem mutator_accepted_iff :
    blueprint.AcceptedMutator resources ↔ ∃ m, blueprint.mutator resources = .ok m := by
  constructor
  · rintro (⟨named, given⟩ | ⟨named, given⟩ | ⟨named, given⟩)
    · obtain ⟨engine, asked⟩ := givesPolicy_iff.mp given
      exact ⟨_, mutator_ok_iff.mpr ⟨.policy, by rw [named]; rfl, by
        rw [mutatorOfKind, asked]
        rfl⟩⟩
    · obtain ⟨endpoint, there⟩ := givesEndpoint_iff.mp given
      exact ⟨_, mutator_ok_iff.mpr ⟨.patchWebhook, by rw [named]; rfl, by
        rw [mutatorOfKind, there]
        rfl⟩⟩
    · obtain ⟨endpoint, there⟩ := givesEndpoint_iff.mp given
      exact ⟨_, mutator_ok_iff.mpr ⟨.documentWebhook, by rw [named]; rfl, by
        rw [mutatorOfKind, there]
        rfl⟩⟩
  · rintro ⟨m, built⟩
    obtain ⟨kind, known, made⟩ := mutator_ok_iff.mp built
    have named := mem_of_lookup known
    cases kind with
    | policy =>
      obtain ⟨engine, asked, -⟩ := bind_ok made
      exact .policy (by simpa [MutatorKind.names] using named) (givesPolicy_iff.mpr ⟨engine, asked⟩)
    | patchWebhook =>
      obtain ⟨endpoint, there, -⟩ := bind_ok made
      exact .patchWebhook (by simpa [MutatorKind.names] using named)
        (givesEndpoint_iff.mpr ⟨endpoint, there⟩)
    | documentWebhook =>
      obtain ⟨endpoint, there, -⟩ := bind_ok made
      exact .documentWebhook (by simpa [MutatorKind.names] using named)
        (givesEndpoint_iff.mpr ⟨endpoint, there⟩)

theorem validator_accepted_iff :
    blueprint.AcceptedValidator resources ↔ ∃ v, blueprint.validator resources = .ok v := by
  constructor
  · rintro (⟨named, given⟩ | ⟨named, given⟩ | ⟨named, given⟩)
    · obtain ⟨engine, asked⟩ := givesPolicy_iff.mp given
      exact ⟨_, validator_ok_iff.mpr ⟨.policy, by rw [named]; rfl, by
        rw [validatorOfKind, asked]
        rfl⟩⟩
    · obtain ⟨endpoint, there⟩ := givesEndpoint_iff.mp given
      exact ⟨_, validator_ok_iff.mpr ⟨.webhook, by rw [named]; rfl, by
        rw [validatorOfKind, there]
        rfl⟩⟩
    · obtain ⟨endpoint, there⟩ := givesEndpoint_iff.mp given
      exact ⟨_, validator_ok_iff.mpr ⟨.image, by rw [named]; rfl, by
        rw [validatorOfKind, there]
        rfl⟩⟩
  · rintro ⟨v, built⟩
    obtain ⟨kind, known, made⟩ := validator_ok_iff.mp built
    have named := mem_of_lookup known
    cases kind with
    | policy =>
      obtain ⟨engine, asked, -⟩ := bind_ok made
      exact .policy (by simpa [ValidatorKind.names] using named)
        (givesPolicy_iff.mpr ⟨engine, asked⟩)
    | webhook =>
      obtain ⟨endpoint, there, -⟩ := bind_ok made
      exact .webhook (by simpa [ValidatorKind.names] using named)
        (givesEndpoint_iff.mpr ⟨endpoint, there⟩)
    | image =>
      obtain ⟨endpoint, there, -⟩ := bind_ok made
      exact .image (by simpa [ValidatorKind.names] using named)
        (givesEndpoint_iff.mpr ⟨endpoint, there⟩)

/-- The mutator of a blueprint has its name, and wants the token resolved if the blueprint does. -/
theorem mutator_carries {m : Mutator σ} (built : blueprint.mutator resources = .ok m) :
    m.name = blueprint.name ∧ m.resolvesToken = blueprint.resolvesToken := by
  cases mutator_ok built <;> exact ⟨rfl, rfl⟩

/-- The validator of a blueprint has its name, and wants the token resolved if the blueprint
    does. -/
theorem validator_carries {v : Validator σ} (built : blueprint.validator resources = .ok v) :
    v.name = blueprint.name ∧ v.resolvesToken = blueprint.resolvesToken := by
  obtain ⟨kind, -, made⟩ := validator_ok_iff.mp built
  cases kind with
  | policy =>
    obtain ⟨engine, -, made⟩ := bind_ok made
    obtain rfl := Except.ok.inj made
    exact ⟨rfl, rfl⟩
  | webhook =>
    obtain ⟨endpoint, -, made⟩ := bind_ok made
    obtain rfl := Except.ok.inj made
    exact ⟨rfl, rfl⟩
  | image =>
    obtain ⟨endpoint, -, made⟩ := bind_ok made
    obtain rfl := Except.ok.inj made
    exact ⟨rfl, rfl⟩

end Blueprint

/-! ## Pipelines -/

namespace Pipeline

variable {mutators validators : List Blueprint}

/-- A pipeline has one controller of each blueprint, in the order of the blueprints, with their
    names, and wants a token resolved if one of the blueprints does. -/
structure BuiltOf (resources : Resources σ) (mutators validators : List Blueprint)
    (pipeline : Pipeline σ) : Prop where
  mutated : List.Forall₂ (fun b m => b.mutator resources = .ok m) mutators pipeline.mutators
  validated :
    List.Forall₂ (fun b v => b.validator resources = .ok v) validators pipeline.validators
  mutatorNames : pipeline.mutators.map (·.name) = mutators.map (·.name)
  validatorNames : pipeline.validators.map (·.name) = validators.map (·.name)
  token : pipeline.resolvesToken = true ↔ ∃ b ∈ mutators ++ validators, b.resolvesToken = true

/-- The error is the one of the first blueprint that is not accepted, where every mutator comes
    before the validators. -/
inductive FirstFault (resources : Resources σ) (mutators validators : List Blueprint)
    (e : BuildError) : Prop where
  | mutator {earlier later : List Blueprint} {b : Blueprint}
      (place : mutators = earlier ++ b :: later)
      (accepted : ∀ a ∈ earlier, a.AcceptedMutator resources)
      (fault : b.mutator resources = .error e)
  | validator {earlier later : List Blueprint} {b : Blueprint}
      (place : validators = earlier ++ b :: later)
      (mutated : ∀ a ∈ mutators, a.AcceptedMutator resources)
      (accepted : ∀ a ∈ earlier, a.AcceptedValidator resources)
      (fault : b.validator resources = .error e)

theorem build_ok_iff {pipeline : Pipeline σ} :
    build resources mutators validators = .ok pipeline ↔
      mutators.mapM (Blueprint.mutator resources) = .ok pipeline.mutators ∧
        validators.mapM (Blueprint.validator resources) = .ok pipeline.validators := by
  constructor
  · intro built
    obtain ⟨ms, mutated, built⟩ := bind_ok built
    obtain ⟨vs, validated, built⟩ := bind_ok built
    obtain rfl := Except.ok.inj built
    exact ⟨mutated, validated⟩
  · rintro ⟨mutated, validated⟩
    simp [build, mutated, validated, bind, Except.bind, pure, Except.pure]

theorem build_succeeds_iff :
    (∃ pipeline, build resources mutators validators = .ok pipeline) ↔
      (∀ b ∈ mutators, b.AcceptedMutator resources) ∧
        ∀ b ∈ validators, b.AcceptedValidator resources := by
  simp only [build_ok_iff, Blueprint.mutator_accepted_iff, Blueprint.validator_accepted_iff]
  rw [← mapM_succeeds_iff, ← mapM_succeeds_iff]
  constructor
  · rintro ⟨pipeline, mutated, validated⟩
    exact ⟨⟨_, mutated⟩, ⟨_, validated⟩⟩
  · rintro ⟨⟨ms, mutated⟩, ⟨vs, validated⟩⟩
    exact ⟨⟨ms, vs⟩, mutated, validated⟩

theorem build_error_iff {e : BuildError} :
    build resources mutators validators = .error e ↔
      FirstFault resources mutators validators e := by
  constructor
  · intro built
    rcases mutated : mutators.mapM (Blueprint.mutator resources) with e' | ms
    · rw [build, mutated] at built
      obtain rfl : e' = e := Except.error.inj built
      obtain ⟨earlier, b, later, place, accepted, fault⟩ := mapM_error_iff.mp mutated
      exact .mutator place (fun a within => Blueprint.mutator_accepted_iff.mpr (accepted a within))
        fault
    · rcases validated : validators.mapM (Blueprint.validator resources) with e' | vs
      · rw [build, mutated] at built
        simp only [validated, bind, Except.bind] at built
        obtain rfl : e' = e := Except.error.inj built
        obtain ⟨earlier, b, later, place, accepted, fault⟩ := mapM_error_iff.mp validated
        have all := mapM_succeeds_iff.mp ⟨ms, mutated⟩
        exact .validator place
          (fun a within => Blueprint.mutator_accepted_iff.mpr (all a within))
          (fun a within => Blueprint.validator_accepted_iff.mpr (accepted a within)) fault
      · have both : build resources mutators validators = .ok ⟨ms, vs⟩ :=
          build_ok_iff.mpr ⟨mutated, validated⟩
        rw [both] at built
        cases built
  · rintro (⟨rfl, accepted, fault⟩ | ⟨rfl, mutated, accepted, fault⟩)
    · rw [build, mapM_error_iff.mpr ⟨_, _, _, rfl,
        fun a within => Blueprint.mutator_accepted_iff.mp (accepted a within), fault⟩]
      rfl
    · obtain ⟨ms, made⟩ := mapM_succeeds_iff.mpr
        fun a within => Blueprint.mutator_accepted_iff.mp (mutated a within)
      rw [build, made, mapM_error_iff.mpr ⟨_, _, _, rfl,
        fun a within => Blueprint.validator_accepted_iff.mp (accepted a within), fault⟩]
      rfl

theorem build_builtOf {pipeline : Pipeline σ}
    (built : build resources mutators validators = .ok pipeline) :
    pipeline.BuiltOf resources mutators validators := by
  obtain ⟨mutated, validated⟩ := build_ok_iff.mp built
  refine ⟨mapM_ok_iff.mp mutated, mapM_ok_iff.mp validated,
    mapM_map (fun _ _ made => (Blueprint.mutator_carries made).1) mutated,
    mapM_map (fun _ _ made => (Blueprint.validator_carries made).1) validated, ?_⟩
  have mutatorTokens := mapM_map (fun _ _ made => (Blueprint.mutator_carries made).2) mutated
  have validatorTokens := mapM_map (fun _ _ made => (Blueprint.validator_carries made).2) validated
  calc pipeline.resolvesToken = true
      ↔ true ∈ pipeline.mutators.map (·.resolvesToken)
          ++ pipeline.validators.map (·.resolvesToken) := by simp [resolvesToken]
    _ ↔ true ∈ mutators.map (·.resolvesToken) ++ validators.map (·.resolvesToken) := by
        rw [mutatorTokens, validatorTokens]
    _ ↔ ∃ b ∈ mutators ++ validators, b.resolvesToken = true := by
        rw [← List.map_append, List.mem_map]

section
variable {earlier : List Blueprint} {b : Blueprint}

/-- A mutator that is not accepted decides the error, whatever comes after it. -/
theorem build_mutator_fault (accepted : ∀ a ∈ earlier, a.AcceptedMutator resources)
    (refused : ¬ b.AcceptedMutator resources) :
    ∃ e, ∀ later validators, build resources (earlier ++ b :: later) validators = .error e := by
  rcases fault : b.mutator resources with e | m
  · exact ⟨e, fun later validators => build_error_iff.mpr (.mutator rfl accepted fault)⟩
  · exact absurd (Blueprint.mutator_accepted_iff.mpr ⟨m, fault⟩) refused

/-- A validator that is not accepted decides the error, whatever comes after it. -/
theorem build_validator_fault (mutated : ∀ a ∈ mutators, a.AcceptedMutator resources)
    (accepted : ∀ a ∈ earlier, a.AcceptedValidator resources)
    (refused : ¬ b.AcceptedValidator resources) :
    ∃ e, ∀ later, build resources mutators (earlier ++ b :: later) = .error e := by
  rcases fault : b.validator resources with e | v
  · exact ⟨e, fun later => build_error_iff.mpr (.validator rfl mutated accepted fault)⟩
  · exact absurd (Blueprint.validator_accepted_iff.mpr ⟨v, fault⟩) refused

end

/-- A pipeline is built of all of its blueprints or not at all, and then the first that is not
    accepted decides the error. -/
theorem built_whole_or_not (resources : Resources σ) (mutators validators : List Blueprint) :
    ((∃ pipeline, build resources mutators validators = .ok pipeline) ↔
      (∀ b ∈ mutators, b.AcceptedMutator resources) ∧
        ∀ b ∈ validators, b.AcceptedValidator resources) ∧
    (∀ pipeline, build resources mutators validators = .ok pipeline →
      pipeline.BuiltOf resources mutators validators) ∧
    (∀ e, build resources mutators validators = .error e ↔
      FirstFault resources mutators validators e) ∧
    (∀ earlier b later, mutators = earlier ++ b :: later →
      (∀ a ∈ earlier, a.AcceptedMutator resources) → ¬ b.AcceptedMutator resources →
        ∀ others anyone, build resources (earlier ++ b :: others) anyone =
          build resources mutators validators) ∧
    ∀ earlier b later, validators = earlier ++ b :: later →
      (∀ a ∈ mutators, a.AcceptedMutator resources) →
      (∀ a ∈ earlier, a.AcceptedValidator resources) → ¬ b.AcceptedValidator resources →
        ∀ others, build resources mutators (earlier ++ b :: others) =
          build resources mutators validators := by
  refine ⟨build_succeeds_iff, fun _ => build_builtOf, fun _ => build_error_iff, ?_, ?_⟩
  · rintro earlier b later rfl accepted refused others anyone
    obtain ⟨e, fails⟩ := build_mutator_fault accepted refused
    rw [fails, fails]
  · rintro earlier b later rfl mutated accepted refused others
    obtain ⟨e, fails⟩ := build_validator_fault mutated accepted refused
    rw [fails, fails]

/-- Two webhooks and an image check make a pipeline that wants the token resolved because the last
    of them does. A kind that no mutator has decides the error, whatever the validators are. -/
theorem webhooks_built_whole_or_not :
    let resources : Resources Unit := ⟨⟨fun _ _ s => (.silent, s)⟩, fun _ => none⟩
    let target : Json := .object [("endpoint", .string "http://hook/"), ("method", .string "put")]
    let parameters : Members := [("webhook", target), ("verifier", target)]
    let patch : Blueprint := ⟨"json_patch_webhook", "p", false, parameters⟩
    let verdict : Blueprint := ⟨"webhook", "h", false, parameters⟩
    let image : Blueprint := ⟨"image", "i", true, parameters⟩
    (∃ pipeline, build resources [patch] [verdict, image] = .ok pipeline ∧
      pipeline.validators.map (·.name) = ["h", "i"] ∧ pipeline.resolvesToken = true) ∧
    build resources [patch, image] [patch] = .error (.unknownMutator "image") := by
  intro resources target parameters patch verdict image
  have decoded : target.decode EndpointPlan.decoder = .ok ⟨"http://hook/", some "put"⟩ := by
    decide +kernel
  have usable : EndpointPlan.Usable ⟨"http://hook/", some "put"⟩ :=
    ⟨⟨⟨some "http", "hook", "/", none⟩, by decide +kernel⟩, by
      rintro _ ⟨⟩
      exact ⟨"PUT", by decide +kernel⟩⟩
  have mutated : ∀ b ∈ [patch], b.AcceptedMutator resources := by
    simpa using .patchWebhook rfl ⟨_, ⟨target, rfl, decoded⟩, usable⟩
  have validated : ∀ b ∈ [verdict, image], b.AcceptedValidator resources := by
    simpa using ⟨.webhook rfl ⟨_, ⟨target, rfl, decoded⟩, usable⟩,
      .image rfl ⟨_, ⟨target, rfl, decoded⟩, usable⟩⟩
  obtain ⟨succeeds, whole, -⟩ := built_whole_or_not resources [patch] [verdict, image]
  obtain ⟨-, -, fails, -⟩ := built_whole_or_not resources [patch, image] [patch]
  obtain ⟨pipeline, built⟩ := succeeds.mpr ⟨mutated, validated⟩
  have made := whole pipeline built
  exact ⟨⟨pipeline, built, made.validatorNames, made.token.mpr ⟨image, by simp, rfl⟩⟩,
    (fails _).mpr (.mutator (show [patch, image] = [patch] ++ image :: [] from rfl) mutated rfl)⟩

end Pipeline
end JobGate
