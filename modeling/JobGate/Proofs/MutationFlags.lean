import JobGate.Proofs.Contacts
import JobGate.Proofs.CountedRuns
import JobGate.Proofs.DocumentEquality
import JobGate.Proofs.PatchingMutators

/-!
Mutators that say they changed nothing. One that applies operations says so when there are none, and
then it returns the job as it was; one that replaces the job says so exactly when both jobs are the
same up to the order of members (`documentWebhook_mutated_iff`). A run in which no mutator says that
it changed the job therefore ends with the job that was submitted (`unmutated_verdicts_truthful`).
-/
namespace JobGate

variable {σ : Type}

/-- The mutator applies the operations that a policy or a webhook proposes. -/
inductive Mutator.Patching : Mutator σ → Prop where
  | policy (engine : PolicyEngine σ) (name : String) (token : Bool) :
      Patching (engine.mutator name token)
  | webhook (net : Network σ) (name : String) (token : Bool) (endpoint : Endpoint) :
      Patching (patchWebhook net name token endpoint)

/-- The mutator is of one of the kinds that come with the gate. -/
inductive Mutator.BuiltIn : Mutator σ → Prop where
  | patching {m : Mutator σ} (patches : m.Patching) : BuiltIn m
  | document (net : Network σ) (name : String) (token : Bool) (endpoint : Endpoint) :
      BuiltIn (documentWebhook net name token endpoint)

/-- The same job up to the order of members. -/
def Job.Alike (a b : Job) : Prop := Json.Alike a.toJson b.toJson

/-- Whatever the mutator says that it did not change is kept. -/
def Mutator.Truthful (kept : Job → Job → Prop) (m : Mutator σ) : Prop :=
  ∀ payload s mutation, (m.mutate payload s).1 = .ok mutation → mutation.mutated = false →
    kept mutation.job payload.job

theorem Job.PatchedBy.eq_of_nil {job patched : Job} (led : PatchedBy [] job patched) :
    patched = job := by
  have still : job.patch [] = .ok (patched, false) := Job.patch_eq_ok_iff.mpr ⟨led, rfl⟩
  exact (Prod.mk.inj (Except.ok.inj still)).1.symm

theorem Proposal.mutation_unmutated {proposal : Proposal} {job : Job} {mutation : Mutation}
    (made : proposal.mutation job = .ok mutation) (still : mutation.mutated = false) :
    mutation.job = job := by
  obtain ⟨-, led, flag, -⟩ := mutation_ok_iff.mp made
  have none : proposal.patch = [] := by simpa [still] using flag
  rw [none] at led
  exact led.eq_of_nil

/-- What a patching mutator returns is made of some proposal. -/
theorem Mutator.Patching.proposes {m : Mutator σ} (patches : m.Patching) {payload : Payload} {s : σ}
    {mutation : Mutation} (made : (m.mutate payload s).1 = .ok mutation) :
    ∃ proposal : Proposal, proposal.mutation payload.job = .ok mutation := by
  cases patches with
  | policy engine name token =>
    rcases asked : engine.ask payload s with ⟨e | proposal, t⟩
    · simp [PolicyEngine.mutator, asked] at made
    · exact ⟨proposal.signed name, by simpa [PolicyEngine.mutator, asked] using made⟩
  | webhook net name token endpoint =>
    rcases asked : net.consult endpoint Proposal.decoder payload s with ⟨e | proposal, t⟩
    · simp [patchWebhook, asked] at made
    · exact ⟨proposal, by simpa [patchWebhook, asked] using made⟩

theorem Mutator.Patching.truthful {m : Mutator σ} (patches : m.Patching) : m.Truthful Eq := by
  intro payload s mutation made still
  obtain ⟨proposal, made⟩ := patches.proposes made
  exact proposal.mutation_unmutated made still

theorem documentWebhook_mutate_ok_iff {net : Network σ} {name : String} {token : Bool}
    {endpoint : Endpoint} {payload : Payload} {s : σ} {mutation : Mutation} :
    ((documentWebhook net name token endpoint).mutate payload s).1 = .ok mutation ↔
      ∃ answer, net.Answers endpoint (Decoder.optional Job.decoder) payload s (some answer) ∧
        mutation = ⟨answer, !answer.same payload.job, []⟩ := by
  simp only [← Network.consult_ok_iff]
  rcases asked : net.consult endpoint (Decoder.optional Job.decoder) payload s with
    ⟨e | ⟨_ | answer⟩, t⟩
  · simp [documentWebhook, asked]
  · simp [documentWebhook, asked, Job.replacement]
  · simp [documentWebhook, asked, Job.replacement, eq_comm]

theorem Network.Answers.readsBack {net : Network σ} {endpoint : Endpoint} {payload : Payload}
    {s : σ} {job : Job}
    (answers : net.Answers endpoint (Decoder.optional Job.decoder) payload s (some job)) :
    job.toJson.ReadsBack textRoom := by
  obtain ⟨reply, -, -, -, decoded⟩ := answers
  obtain ⟨read, -⟩ := decodeBytes_eq_ok.mp decoded
  exact Job.readsBack_decoder (Decoder.optional_ok read)

/-- A webhook that replaces the job says that it changed it exactly when it did. -/
theorem documentWebhook_mutated_iff {net : Network σ} {name : String} {token : Bool}
    {endpoint : Endpoint} {payload : Payload} {s : σ} {mutation : Mutation}
    (made : ((documentWebhook net name token endpoint).mutate payload s).1 = .ok mutation) :
    mutation.mutated = true ↔ ¬ mutation.job.Alike payload.job := by
  obtain ⟨answer, answers, rfl⟩ := documentWebhook_mutate_ok_iff.mp made
  have compared : answer.same payload.job = true ↔ answer.Alike payload.job :=
    Json.same_iff_alike answers.readsBack
  rw [← compared]
  simp

theorem Mutator.BuiltIn.truthful {m : Mutator σ} (builtIn : m.BuiltIn) : m.Truthful Job.Alike := by
  intro payload s mutation made still
  cases builtIn with
  | patching patches =>
    rw [patches.truthful payload s mutation made still]
    exact Json.Alike.refl _
  | document net name token endpoint =>
    by_contra differs
    rw [(documentWebhook_mutated_iff made).mpr differs] at still
    cases still

theorem Pipeline.build_builtIn {resources : Resources σ} {mutators validators : List Blueprint}
    {pipeline : Pipeline σ} (built : Pipeline.build resources mutators validators = .ok pipeline) :
    ∀ m ∈ pipeline.mutators, m.BuiltIn := by
  intro m member
  obtain ⟨blueprint, -, made⟩ := (build_ok built).1 m member
  cases Blueprint.mutator_ok made with
  | policy => exact .patching (.policy _ _ _)
  | patchWebhook endpoint => exact .patching (.webhook _ _ _ endpoint)
  | documentWebhook endpoint => exact .document _ _ _ endpoint

def NoMutation (events : List Event) : Prop := ∀ name, .mutatorMutation name ∉ events

theorem noMutation_append {a b : List Event} :
    NoMutation (a ++ b) ↔ NoMutation a ∧ NoMutation b := by
  simp [NoMutation, forall_and]

theorem Mutation.noMutation_iff {name : String} {mutation : Mutation} :
    NoMutation (mutation.events name) ↔ mutation.mutated = false := by
  constructor
  · intro quiet
    by_contra changed
    exact quiet name (by simp [events, changed])
  · intro still other
    simp [events, still]

theorem ValidatorCall.noMutation (call : ValidatorCall σ) : NoMutation call.events := by
  intro name
  rcases answered : call.answer with failure | verdict
  · simp [events, answered]
  · simp [events, answered, Verdict.events]

namespace Pipeline

/-- A review counts the mutations that its mutators do. -/
theorem noMutation_review_iff {pipeline : Pipeline σ} {payload : Payload} {s : σ} :
    NoMutation (pipeline.review payload s).1.events ↔
      NoMutation (pipeline.mutate payload s).1.events := by
  have judged : NoMutation ((pipeline.judgements payload s).flatMap ValidatorCall.events) := by
    intro name there
    obtain ⟨call, -, among⟩ := List.mem_flatMap.mp there
    exact call.noMutation name among
  rw [events_review, noMutation_append, mutate, events_runMutators, ← mutations]
  exact and_iff_left judged

/-! What is reviewed, admitted or judged is the job that the mutators leave. -/

section
variable {pipeline : Pipeline σ} {payload : Payload} {s : σ}

theorem job_of_review {review : Review}
    (done : (pipeline.review payload s).1.result = .ok review) :
    ∃ admitted, (pipeline.mutate payload s).1.result = .ok admitted ∧
      review.job = admitted.job := by
  rcases mutated : pipeline.mutate payload s with ⟨⟨refusal | admitted, events⟩, t⟩
  · simp [Pipeline.review, mutated] at done
  · simp only [Pipeline.review, mutated, Except.ok.injEq] at done
    exact ⟨admitted, rfl, by rw [← done]⟩

theorem job_of_enforce {admitted : Admitted}
    (done : (pipeline.enforce payload s).1.result = .ok admitted) :
    ∃ review, (pipeline.review payload s).1.result = .ok review ∧ admitted.job = review.job := by
  obtain ⟨review, reviewed, accepted⟩ := bind_ok done
  rw [Review.enforced] at accepted
  split at accepted
  · obtain rfl := Except.ok.inj accepted
    exact ⟨review, reviewed, rfl⟩
  · cases accepted

theorem job_of_judgement {call : ValidatorCall σ} (asked : call ∈ pipeline.judgements payload s) :
    ∃ admitted, (pipeline.mutate payload s).1.result = .ok admitted ∧
      call.shown.job = admitted.job := by
  rcases mutated : pipeline.mutate payload s with ⟨⟨refusal | admitted, events⟩, t⟩
  · simp [judgements, mutated] at asked
  · simp only [judgements, mutated] at asked
    exact ⟨admitted, rfl, by rw [validatorCalls_shown _ _ _ call asked]⟩

end

/-- Where a run counts no mutation, the jobs on its way are kept: those that controllers are shown,
    and the one that it ends with. -/
structure Truthful (kept : Job → Job → Prop) (pipeline : Pipeline σ) (payload : Payload) (s : σ) :
    Prop where
  mutated : NoMutation (pipeline.mutate payload s).1.events →
    ∀ admitted, (pipeline.mutate payload s).1.result = .ok admitted →
      kept admitted.job payload.job
  reviewed : NoMutation (pipeline.review payload s).1.events →
    ∀ review, (pipeline.review payload s).1.result = .ok review → kept review.job payload.job
  enforced : NoMutation (pipeline.enforce payload s).1.events →
    ∀ admitted, (pipeline.enforce payload s).1.result = .ok admitted →
      kept admitted.job payload.job
  shown : NoMutation (pipeline.review payload s).1.events →
    (∀ call ∈ pipeline.mutations payload s, kept call.shown.job payload.job) ∧
      ∀ call ∈ pipeline.judgements payload s, kept call.shown.job payload.job

section
variable {kept : Job → Job → Prop} (same : Equivalence kept)
include same

/-- Mutators that count no mutation hand the job on as it is. -/
theorem runMutators_keeps {mutators : List (Mutator σ)}
    (truthful : ∀ m ∈ mutators, m.Truthful kept) {payload : Payload} {s : σ}
    (quiet : NoMutation (runMutators mutators payload s).1.events) :
    (∀ call ∈ mutatorCalls mutators payload s, kept call.shown.job payload.job) ∧
      ∀ admitted, (runMutators mutators payload s).1.result = .ok admitted →
        kept admitted.job payload.job := by
  induction mutators generalizing payload s with
  | nil =>
    refine ⟨nofun, fun admitted done => ?_⟩
    obtain rfl : ⟨payload.job, []⟩ = admitted := Except.ok.inj done
    exact same.refl _
  | cons m rest ih =>
    rcases asked : m.mutate payload s with ⟨failure | mutation, t⟩
    · simp [runMutators, mutatorCalls, asked, same.refl]
    -- the mutator kept its job, and the rest keeps the job that it was given
    · simp only [runMutators, asked, noMutation_append] at quiet
      obtain ⟨still, later⟩ := quiet
      have first : kept mutation.job payload.job :=
        truthful m (.head _) payload s mutation (by rw [asked]) (Mutation.noMutation_iff.mp still)
      obtain ⟨shown, ended⟩ := ih (fun m member => truthful m (.tail _ member)) later
      simp only [runMutators, mutatorCalls, asked, List.forall_mem_cons]
      refine ⟨⟨same.refl _, fun call among => same.trans (shown call among) first⟩, ?_⟩
      intro admitted done
      obtain ⟨last, ran, rfl⟩ := map_ok done
      exact same.trans (ended last ran) first

theorem truthful_of_mutators {pipeline : Pipeline σ}
    (truthful : ∀ m ∈ pipeline.mutators, m.Truthful kept) (payload : Payload) (s : σ) :
    pipeline.Truthful kept payload s := by
  have runs (quiet : NoMutation (pipeline.mutate payload s).1.events) :=
    runMutators_keeps same truthful quiet
  have reviews (quiet : NoMutation (pipeline.review payload s).1.events) (review : Review)
      (done : (pipeline.review payload s).1.result = .ok review) :
      kept review.job payload.job := by
    obtain ⟨admitted, ended, left⟩ := job_of_review done
    rw [left]
    exact (runs (noMutation_review_iff.mp quiet)).2 admitted ended
  constructor
  · exact fun quiet => (runs quiet).2
  · exact reviews
  · intro quiet admitted done
    obtain ⟨review, reviewed, left⟩ := job_of_enforce done
    rw [left]
    exact reviews quiet review reviewed
  · intro quiet
    obtain ⟨shown, ended⟩ := runs (noMutation_review_iff.mp quiet)
    refine ⟨shown, fun call asked => ?_⟩
    obtain ⟨admitted, mutated, left⟩ := job_of_judgement asked
    rw [left]
    exact ended admitted mutated

end

end Pipeline

theorem Job.alike_equivalence : Equivalence Job.Alike :=
  Json.alike_equivalence.comap Job.toJson

/-- A mutator that says it did not change the job returns the job: the very job if it applies
    operations, the same up to the order of members if it replaces the job, and this one says that
    it changed the job only if it did. So a run in which no mutation is counted leaves the job as it
    was submitted. -/
theorem unmutated_verdicts_truthful :
    (∀ m : Mutator σ, m.Patching → m.Truthful Eq) ∧
      (∀ (net : Network σ) (name : String) (token : Bool) (endpoint : Endpoint) (payload : Payload)
        (s : σ) (mutation : Mutation),
        ((documentWebhook net name token endpoint).mutate payload s).1 = .ok mutation →
          (mutation.mutated = true ↔ ¬ mutation.job.Alike payload.job)) ∧
      (∀ pipeline : Pipeline σ, (∀ m ∈ pipeline.mutators, m.BuiltIn) →
        ∀ payload s, pipeline.Truthful Job.Alike payload s) ∧
      (∀ pipeline : Pipeline σ, (∀ m ∈ pipeline.mutators, m.Patching) →
        ∀ payload s, pipeline.Truthful Eq payload s) ∧
      ∀ (resources : Resources σ) (mutators validators : List Blueprint) (pipeline : Pipeline σ),
        Pipeline.build resources mutators validators = .ok pipeline →
          ∀ m ∈ pipeline.mutators, m.BuiltIn := by
  refine ⟨fun m patches => patches.truthful, ?_, ?_, ?_, ?_⟩
  · exact fun net name token endpoint payload s mutation made => documentWebhook_mutated_iff made
  · intro pipeline builtIn
    exact Pipeline.truthful_of_mutators Job.alike_equivalence fun m member =>
      (builtIn m member).truthful
  · intro pipeline patches
    exact Pipeline.truthful_of_mutators eq_equivalence fun m member => (patches m member).truthful
  · exact fun resources mutators validators pipeline built => Pipeline.build_builtIn built

def shortJob : Job := ⟨[("ID", .string "web"), ("Name", .string "main")]⟩

/-- The two members in the other order. -/
def shortJobSwapped : Job := ⟨[("Name", .string "main"), ("ID", .string "web")]⟩

/-- A network whose only endpoint answers with a job of two members. -/
def swappingNetwork : Network Unit where
  dispatch _ _ s := (.reply {
    status := 200
    headers := []
    body := Utf8.encode "\x7b\"Name\":\"main\",\"ID\":\"web\"\x7d" }, s)

/-- The pipeline that replaces jobs by it. -/
def swapping : Pipeline Unit where
  mutators := [documentWebhook swappingNetwork "swap" false Gateway.hookEndpoint]
  validators := []

/-- Members in another order are no mutation: none is counted, and the job that comes out is the
    submitted one up to that order. -/
theorem swapped_members_unmutated :
    ((documentWebhook swappingNetwork "swap" false Gateway.hookEndpoint).mutate
        ⟨shortJob, none⟩ ()).1 = .ok ⟨shortJobSwapped, false, []⟩ ∧
      shortJobSwapped ≠ shortJob ∧ shortJobSwapped.Alike shortJob ∧
      (swapping.mutate ⟨shortJob, none⟩ ()).1 = ⟨.ok ⟨shortJobSwapped, []⟩, []⟩ ∧
      swapping.Truthful Job.Alike ⟨shortJob, none⟩ () := by
  obtain ⟨-, said, runs, -⟩ := @unmutated_verdicts_truthful Unit
  have answers : swappingNetwork.Answers Gateway.hookEndpoint (Decoder.optional Job.decoder)
      ⟨shortJob, none⟩ () (some shortJobSwapped) :=
    ⟨_, rfl, rfl, rfl, by decide +kernel⟩
  have made : ((documentWebhook swappingNetwork "swap" false Gateway.hookEndpoint).mutate
      ⟨shortJob, none⟩ ()).1 = .ok ⟨shortJobSwapped, false, []⟩ :=
    documentWebhook_mutate_ok_iff.mpr ⟨_, answers, by decide +kernel⟩
  have alike := said swappingNetwork "swap" false Gateway.hookEndpoint _ () _ made
  have truthful := runs swapping (by
    intro m member
    rw [List.mem_singleton.mp member]
    exact .document swappingNetwork "swap" false Gateway.hookEndpoint) ⟨shortJob, none⟩ ()
  refine ⟨made, by decide, by simpa using alike, ?_, truthful⟩
  have asked : (documentWebhook swappingNetwork "swap" false Gateway.hookEndpoint).mutate
      ⟨shortJob, none⟩ () = (.ok ⟨shortJobSwapped, false, []⟩, ()) :=
    Prod.ext made (Subsingleton.elim _ _)
  simp only [swapping, Pipeline.mutate, Pipeline.runMutators, asked]
  rfl

end JobGate
