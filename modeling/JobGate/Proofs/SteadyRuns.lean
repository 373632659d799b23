import JobGate.Proofs.ControllerCalls

/-!
Runs that cannot tell states apart. An action is steady for a relation on states when it has the
same result in states that are related, and leaves them related. Controllers that are steady make a
pipeline that is: it calls them alike, with the same outcome (`review_steady`, `enforce_steady`).
The relation may be any: equality for every controller at all, the whole for controllers that read
nothing of the state.
-/
namespace JobGate

variable {σ α β : Type} {alike : σ → σ → Prop}

/-- In states that are alike the action has the same result, and it leaves them alike. -/
def Steady (alike : σ → σ → Prop) (action : σ → α × σ) : Prop :=
  ∀ s t, alike s t → (action s).1 = (action t).1 ∧ alike (action s).2 (action t).2

theorem steady_eq (action : σ → α × σ) : Steady Eq action := by
  rintro s _ rfl
  exact ⟨rfl, rfl⟩

namespace Steady

variable {action : σ → α × σ} {s t : σ}

theorem results (steady : Steady alike action) (same : alike s t) :
    ∃ a s' t', action s = (a, s') ∧ action t = (a, t') ∧ alike s' t' := by
  obtain ⟨result, after⟩ := steady s t same
  exact ⟨(action s).1, _, (action t).2, rfl, Prod.ext result.symm rfl, after⟩

theorem done (a : α) : Steady alike fun s => (a, s) := fun _ _ same => ⟨rfl, same⟩

end Steady

namespace Pipeline

structure AllSteady (pipeline : Pipeline σ) (alike : σ → σ → Prop) : Prop where
  mutators : ∀ m ∈ pipeline.mutators, ∀ payload, Steady alike (m.mutate payload)
  validators : ∀ v ∈ pipeline.validators, ∀ payload, Steady alike (v.validate payload)

theorem runMutators_steady {mutators : List (Mutator σ)}
    (steady : ∀ m ∈ mutators, ∀ payload, Steady alike (m.mutate payload)) (payload : Payload) :
    Steady alike (runMutators mutators payload) := by
  induction mutators generalizing payload with
  | nil => exact .done _
  | cons m rest ih =>
    intro s t same
    obtain ⟨failure | mutation, s', t', here, there, after⟩ :=
      (steady m (by simp) payload).results same
    · simpa [runMutators, here, there] using after
    · obtain ⟨out, u, v, here', there', last⟩ := (ih (fun m member => steady m (.tail _ member))
        { payload with job := mutation.job }).results after
      simpa [runMutators, here, there, here', there'] using last

theorem mutatorCalls_steady {mutators : List (Mutator σ)}
    (steady : ∀ m ∈ mutators, ∀ payload, Steady alike (m.mutate payload)) (payload : Payload)
    {s t : σ} (same : alike s t) :
    mutatorCalls mutators payload s = mutatorCalls mutators payload t := by
  induction mutators generalizing payload s t with
  | nil => rfl
  | cons m rest ih =>
    obtain ⟨failure | mutation, s', t', here, there, after⟩ :=
      (steady m (by simp) payload).results same
    · simp [mutatorCalls, here, there]
    · simp [mutatorCalls, here, there, ih (fun m member => steady m (.tail _ member)) _ after]

theorem runValidators_steady {validators : List (Validator σ)}
    (steady : ∀ v ∈ validators, ∀ payload, Steady alike (v.validate payload)) (payload : Payload) :
    Steady alike (runValidators validators payload) := by
  induction validators with
  | nil => exact .done _
  | cons v rest ih =>
    intro s t same
    obtain ⟨answer, s', t', here, there, after⟩ := (steady v (by simp) payload).results same
    obtain ⟨out, u, w, here', there', last⟩ :=
      (ih fun v member => steady v (.tail _ member)).results after
    rcases answer with failure | verdict
    · simpa [runValidators, here, there, here', there'] using last
    · simpa [runValidators, here, there, here', there'] using last

theorem validatorCalls_steady {validators : List (Validator σ)}
    (steady : ∀ v ∈ validators, ∀ payload, Steady alike (v.validate payload)) (payload : Payload)
    {s t : σ} (same : alike s t) :
    validatorCalls validators payload s = validatorCalls validators payload t := by
  induction validators generalizing s t with
  | nil => rfl
  | cons v rest ih =>
    obtain ⟨answer, after⟩ := steady v (by simp) payload s t same
    simp [validatorCalls, answer, ih (fun v member => steady v (.tail _ member)) after]

section
variable {pipeline : Pipeline σ} (steady : pipeline.AllSteady alike) (payload : Payload)
include steady

theorem review_steady : Steady alike (pipeline.review payload) := by
  intro s t same
  obtain ⟨⟨result, events⟩, s', t', here, there, after⟩ :=
    (runMutators_steady steady.mutators payload).results same
  rcases result with refusal | admitted
  · simpa [review, mutate, here, there] using after
  · obtain ⟨out, u, v, here', there', last⟩ :=
      (runValidators_steady steady.validators { payload with job := admitted.job }).results after
    simpa [review, mutate, validate, here, there, here', there'] using last

theorem enforce_steady : Steady alike (pipeline.enforce payload) := by
  intro s t same
  obtain ⟨out, s', t', here, there, after⟩ := (review_steady steady payload).results same
  simpa [enforce, here, there] using after

/-- Steady controllers are called alike. -/
theorem reviewCalls_steady {s t : σ} (same : alike s t) :
    pipeline.reviewCalls payload s = pipeline.reviewCalls payload t := by
  have mutations : pipeline.mutations payload s = pipeline.mutations payload t :=
    mutatorCalls_steady steady.mutators payload same
  obtain ⟨⟨result, events⟩, s', t', here, there, after⟩ :=
    (runMutators_steady steady.mutators payload).results same
  rcases result with refusal | admitted
  · simp [reviewCalls, mutations, judgements, mutate, here, there]
  · simp [reviewCalls, mutations, judgements, mutate, here, there,
      validatorCalls_steady steady.validators _ after]

end

end Pipeline

/-- A gate decides as its controllers do. -/
theorem Gateway.decide_steady {gate : Gateway σ} (steady : gate.pipeline.AllSteady alike)
    (route : Route) (payload : Payload) : Steady alike (gate.decide route payload) := by
  intro s t same
  obtain ⟨enforced, s', t', here, there, after⟩ :=
    (Pipeline.enforce_steady steady payload).results same
  obtain ⟨reviewed, u, v, here', there', after'⟩ :=
    (Pipeline.review_steady steady payload).results same
  cases route with
  | register => simpa [decide, here, there] using after
  | plan => simpa [decide, here, there] using after
  | validate => simpa [decide, here', there'] using after'

end JobGate
