import JobGate.Gateway.Basic

/-!
The calls that a pipeline makes. `Pipeline.watched` is the pipeline whose controllers also write
down what they are shown and what they answer; watching changes no answer and no state, and what is
written down is `Pipeline.reviewCalls` (`review_watched`, `enforce_watched`). The calls of mutators
stand in configured order up to the first failure, each about the job that the one before returned
(`mutatorCalls_order`, `mutatorCalls_shown`); those of validators are one for each validator, all
about one payload (`validatorCalls_order`, `validatorCalls_shown`). The result of a run is read off
its calls.
-/
namespace JobGate

variable {σ κ α : Type}

/-- A controller was shown a payload and gave an answer. -/
structure ControllerCall (κ α : Type) where
  controller : κ
  shown : Payload
  answer : Except Failure α

abbrev MutatorCall (σ : Type) := ControllerCall (Mutator σ) Mutation

abbrev ValidatorCall (σ : Type) := ControllerCall (Validator σ) Verdict

/-- What a gate asks of those around it. -/
inductive Call (σ : Type) where
  /-- The identity source was asked about a token. -/
  | identify (token : String) (answer : Except Failure Identity)
  | mutator (call : MutatorCall σ)
  | validator (call : ValidatorCall σ)
  /-- The network was handed a request. -/
  | send (errand : Errand) (request : Request) (delivery : Delivery)

/-- A state with the calls written down so far. -/
abbrev Watched (σ : Type) := σ × List (Call σ)

/-- The action that also writes down a call, which depends on the result. -/
def watch (note : α → Call σ) (action : σ → α × σ) (w : Watched σ) : α × Watched σ :=
  ((action w.1).1, ((action w.1).2, w.2 ++ [note (action w.1).1]))

def Mutator.watched (m : Mutator σ) : Mutator (Watched σ) where
  name := m.name
  resolvesToken := m.resolvesToken
  mutate payload := watch (fun answer => .mutator ⟨m, payload, answer⟩) (m.mutate payload)

def Validator.watched (v : Validator σ) : Validator (Watched σ) where
  name := v.name
  resolvesToken := v.resolvesToken
  validate payload := watch (fun answer => .validator ⟨v, payload, answer⟩) (v.validate payload)

/-- The pipeline whose controllers write down their calls. -/
def Pipeline.watched (pipeline : Pipeline σ) : Pipeline (Watched σ) where
  mutators := pipeline.mutators.map Mutator.watched
  validators := pipeline.validators.map Validator.watched

theorem resolvesToken_watched (pipeline : Pipeline σ) :
    pipeline.watched.resolvesToken = pipeline.resolvesToken := by
  simp [Pipeline.resolvesToken, Pipeline.watched, List.any_map, Function.comp_def, Mutator.watched,
    Validator.watched]

namespace ControllerCall

/-- The answers are those that the controllers give when they are asked one after another. -/
def Played (ask : κ → Payload → σ → Except Failure α × σ) :
    σ → List (ControllerCall κ α) → σ → Prop
  | s, [], t => s = t
  | s, call :: rest, t =>
    (ask call.controller call.shown s).1 = call.answer ∧
      Played ask (ask call.controller call.shown s).2 rest t

def Succeeded (call : ControllerCall κ α) : Prop := ∃ a, call.answer = .ok a

end ControllerCall

/-- The job that the mutator returned, if it succeeded. -/
def MutatorCall.job? (call : MutatorCall σ) : Option Job := call.answer.toOption.map (·.job)

/-- The job that calls of mutators leave: the one returned last, or else the submitted one. -/
def lastJob (submitted : Job) (calls : List (MutatorCall σ)) : Job :=
  (calls.filterMap MutatorCall.job?).getLastD submitted

/-- The warnings of the mutator; a failure brings none. -/
def MutatorCall.warnings (call : MutatorCall σ) : List String :=
  match call.answer with
  | .ok mutation => mutation.warnings
  | .error _ => []

/-- The warnings of the validator; a failure brings none. -/
def ValidatorCall.warnings (call : ValidatorCall σ) : List String :=
  match call.answer with
  | .ok verdict => verdict.warnings
  | .error _ => []

/-- What the validator found against the job. -/
def ValidatorCall.causes (call : ValidatorCall σ) : List String :=
  match call.answer with
  | .ok verdict => verdict.errors.list
  | .error failure => (failure.asCauses call.controller.name).list

namespace Pipeline

def mutatorCalls : List (Mutator σ) → Payload → σ → List (MutatorCall σ)
  | [], _, _ => []
  | m :: rest, payload, s =>
    match m.mutate payload s with
    | (.error failure, _) => [⟨m, payload, .error failure⟩]
    | (.ok mutation, s) =>
      ⟨m, payload, .ok mutation⟩ :: mutatorCalls rest { payload with job := mutation.job } s

def validatorCalls : List (Validator σ) → Payload → σ → List (ValidatorCall σ)
  | [], _, _ => []
  | v :: rest, payload, s =>
    ⟨v, payload, (v.validate payload s).1⟩ :: validatorCalls rest payload (v.validate payload s).2

/-- The calls of the mutators of a review. -/
def mutations (pipeline : Pipeline σ) (payload : Payload) (s : σ) : List (MutatorCall σ) :=
  mutatorCalls pipeline.mutators payload s

/-- The calls of the validators of a review: none if a mutator failed. -/
def judgements (pipeline : Pipeline σ) (payload : Payload) (s : σ) : List (ValidatorCall σ) :=
  match pipeline.mutate payload s with
  | (⟨.error _, _⟩, _) => []
  | (⟨.ok admitted, _⟩, s) =>
    validatorCalls pipeline.validators { payload with job := admitted.job } s

def reviewCalls (pipeline : Pipeline σ) (payload : Payload) (s : σ) : List (Call σ) :=
  (pipeline.mutations payload s).map .mutator ++ (pipeline.judgements payload s).map .validator

theorem runMutators_watched (mutators : List (Mutator σ)) (payload : Payload) (s : σ)
    (log : List (Call σ)) :
    runMutators (mutators.map Mutator.watched) payload (s, log) =
      ((runMutators mutators payload s).1, ((runMutators mutators payload s).2,
        log ++ (mutatorCalls mutators payload s).map .mutator)) := by
  induction mutators generalizing payload s log with
  | nil => simp [runMutators, mutatorCalls]
  | cons m rest ih =>
    rcases asked : m.mutate payload s with ⟨failure | mutation, t⟩
    · simp [runMutators, mutatorCalls, Mutator.watched, watch, asked]
    · simp [runMutators, mutatorCalls, Mutator.watched, watch, asked, ih]

theorem runValidators_watched (validators : List (Validator σ)) (payload : Payload) (s : σ)
    (log : List (Call σ)) :
    runValidators (validators.map Validator.watched) payload (s, log) =
      ((runValidators validators payload s).1, ((runValidators validators payload s).2,
        log ++ (validatorCalls validators payload s).map .validator)) := by
  induction validators generalizing s log with
  | nil => simp [runValidators, validatorCalls]
  | cons v rest ih =>
    rcases asked : v.validate payload s with ⟨failure | verdict, t⟩
    · simp [runValidators, validatorCalls, Validator.watched, watch, asked, ih]
    · simp [runValidators, validatorCalls, Validator.watched, watch, asked, ih]

/-- Watching a review changes neither its outcome nor the state that it leaves. -/
theorem review_watched (pipeline : Pipeline σ) (payload : Payload) (s : σ) (log : List (Call σ)) :
    pipeline.watched.review payload (s, log) =
      ((pipeline.review payload s).1, ((pipeline.review payload s).2,
        log ++ pipeline.reviewCalls payload s)) := by
  have mutated := runMutators_watched pipeline.mutators payload s log
  rcases ran : runMutators pipeline.mutators payload s with ⟨⟨refusal | admitted, events⟩, t⟩
  · simp [review, mutate, watched, mutated, ran, reviewCalls, mutations, judgements]
  · have judged := runValidators_watched pipeline.validators { payload with job := admitted.job } t
      (log ++ (mutatorCalls pipeline.mutators payload s).map .mutator)
    simp [review, mutate, validate, watched, mutated, ran, judged, reviewCalls, mutations,
      judgements]

theorem enforce_watched (pipeline : Pipeline σ) (payload : Payload) (s : σ) (log : List (Call σ)) :
    pipeline.watched.enforce payload (s, log) =
      ((pipeline.enforce payload s).1, ((pipeline.enforce payload s).2,
        log ++ pipeline.reviewCalls payload s)) := by
  simp [enforce, review_watched]

/-- Mutators are called in configured order, none twice, from the first on. -/
theorem mutatorCalls_order (mutators : List (Mutator σ)) (payload : Payload) (s : σ) :
    (mutatorCalls mutators payload s).map (·.controller) <+: mutators := by
  induction mutators generalizing payload s with
  | nil => simp [mutatorCalls]
  | cons m rest ih =>
    rcases asked : m.mutate payload s with ⟨failure | mutation, t⟩
    · simp [mutatorCalls, asked]
    · simpa [mutatorCalls, asked] using ih { payload with job := mutation.job } t

/-- The first mutator is shown the submitted job, each later one the job that the one before
    returned; the caller stays the same. -/
theorem mutatorCalls_shown (mutators : List (Mutator σ)) (payload : Payload) (s : σ) :
    (mutatorCalls mutators payload s).map (·.shown) =
      ((payload.job :: (mutatorCalls mutators payload s).filterMap MutatorCall.job?).take
        (mutatorCalls mutators payload s).length).map (⟨·, payload.caller⟩) := by
  induction mutators generalizing payload s with
  | nil => simp [mutatorCalls]
  | cons m rest ih =>
    rcases asked : m.mutate payload s with ⟨failure | mutation, t⟩
    · simp [mutatorCalls, asked]
    · have tail := ih { payload with job := mutation.job } t
      simp [mutatorCalls, asked, tail, MutatorCall.job?, Except.toOption]

theorem mutatorCalls_played (mutators : List (Mutator σ)) (payload : Payload) (s : σ) :
    ControllerCall.Played Mutator.mutate s (mutatorCalls mutators payload s)
      (runMutators mutators payload s).2 := by
  induction mutators generalizing payload s with
  | nil => rfl
  | cons m rest ih =>
    rcases asked : m.mutate payload s with ⟨failure | mutation, t⟩
    · simp [mutatorCalls, runMutators, asked, ControllerCall.Played]
    · simpa [mutatorCalls, runMutators, asked, ControllerCall.Played] using
        ih { payload with job := mutation.job } t

/-- Mutators that all succeed return the last job and all warnings in order. -/
theorem runMutators_ok {mutators : List (Mutator σ)} {payload : Payload} {s : σ}
    {admitted : Admitted} (ran : (runMutators mutators payload s).1.result = .ok admitted) :
    (mutatorCalls mutators payload s).map (·.controller) = mutators ∧
      (∀ call ∈ mutatorCalls mutators payload s, call.Succeeded) ∧
      admitted.job = lastJob payload.job (mutatorCalls mutators payload s) ∧
      admitted.warnings = (mutatorCalls mutators payload s).flatMap MutatorCall.warnings := by
  induction mutators generalizing payload s admitted with
  | nil =>
    obtain rfl : ⟨payload.job, []⟩ = admitted := by simpa [runMutators] using ran
    simp [mutatorCalls, lastJob]
  | cons m rest ih =>
    rcases asked : m.mutate payload s with ⟨failure | mutation, t⟩
    · simp [runMutators, asked] at ran
    · rcases tail : (runMutators rest { payload with job := mutation.job } t).1.result with
        refusal | last
      · simp [runMutators, asked, tail, Except.map] at ran
      · obtain ⟨order, succeeded, job, warnings⟩ := ih tail
        obtain rfl : { last with warnings := mutation.warnings ++ last.warnings } = admitted := by
          simpa [runMutators, asked, tail, Except.map] using ran
        refine ⟨?_, ?_, ?_, ?_⟩
        · simp [mutatorCalls, asked, order]
        · intro call member
          rcases List.mem_cons.mp (by simpa [mutatorCalls, asked] using member) with rfl | later
          · exact ⟨mutation, rfl⟩
          · exact succeeded call later
        · have returned : MutatorCall.job? ⟨m, payload, .ok mutation⟩ = some mutation.job := rfl
          simp only [mutatorCalls, asked, lastJob, List.filterMap_cons, returned, List.getLastD_cons]
          exact job
        · simp [mutatorCalls, asked, MutatorCall.warnings, warnings]

/-- A run of mutators fails with the last one called, and all before it succeeded. -/
theorem runMutators_error {mutators : List (Mutator σ)} {payload : Payload} {s : σ}
    {refusal : Refusal} (ran : (runMutators mutators payload s).1.result = .error refusal) :
    ∃ earlier last failure, mutatorCalls mutators payload s = earlier ++ [last] ∧
      (∀ call ∈ earlier, call.Succeeded) ∧ last.answer = .error failure ∧
      refusal = .mutator last.controller.name failure := by
  induction mutators generalizing payload s refusal with
  | nil => simp [runMutators] at ran
  | cons m rest ih =>
    rcases asked : m.mutate payload s with ⟨failure | mutation, t⟩
    · refine ⟨[], ⟨m, payload, .error failure⟩, failure, ?_, by simp, rfl, ?_⟩
      · simp [mutatorCalls, asked]
      · simpa [runMutators, asked] using ran.symm
    · rcases tail : (runMutators rest { payload with job := mutation.job } t).1.result with
        stopped | last
      · obtain ⟨earlier, last, failure, calls, succeeded, failed, same⟩ := ih tail
        refine ⟨⟨m, payload, .ok mutation⟩ :: earlier, last, failure, ?_, ?_, failed, ?_⟩
        · simp [mutatorCalls, asked, calls]
        · intro call member
          rcases List.mem_cons.mp member with rfl | later
          · exact ⟨mutation, rfl⟩
          · exact succeeded call later
        · have : stopped = refusal := by simpa [runMutators, asked, tail, Except.map] using ran
          rw [← this, same]
      · simp [runMutators, asked, tail, Except.map] at ran

/-- Every validator is called once, in configured order. -/
theorem validatorCalls_order (validators : List (Validator σ)) (payload : Payload) (s : σ) :
    (validatorCalls validators payload s).map (·.controller) = validators := by
  induction validators generalizing s with
  | nil => rfl
  | cons v rest ih => simp [validatorCalls, ih]

/-- All validators are shown the same payload. -/
theorem validatorCalls_shown (validators : List (Validator σ)) (payload : Payload) (s : σ) :
    ∀ call ∈ validatorCalls validators payload s, call.shown = payload := by
  induction validators generalizing s with
  | nil => simp [validatorCalls]
  | cons v rest ih => simpa [validatorCalls] using ih (v.validate payload s).2

theorem validatorCalls_played (validators : List (Validator σ)) (payload : Payload) (s : σ) :
    ControllerCall.Played Validator.validate s (validatorCalls validators payload s)
      (runValidators validators payload s).2 := by
  induction validators generalizing s with
  | nil => rfl
  | cons v rest ih =>
    have tail := ih (v.validate payload s).2
    rcases asked : v.validate payload s with ⟨failure | verdict, t⟩
    · simpa [validatorCalls, runValidators, asked, ControllerCall.Played] using tail
    · simpa [validatorCalls, runValidators, asked, ControllerCall.Played] using tail

/-- The verdict of all validators holds what each of them said, in order. -/
theorem runValidators_verdict (validators : List (Validator σ)) (payload : Payload) (s : σ) :
    (runValidators validators payload s).1.1.warnings =
        (validatorCalls validators payload s).flatMap ValidatorCall.warnings ∧
      (runValidators validators payload s).1.1.errors.list =
        (validatorCalls validators payload s).flatMap ValidatorCall.causes := by
  induction validators generalizing s with
  | nil => exact ⟨rfl, rfl⟩
  | cons v rest ih =>
    have tail := ih (v.validate payload s).2
    rcases asked : v.validate payload s with ⟨failure | verdict, t⟩
    · simp only [asked] at tail
      simp [runValidators, validatorCalls, asked, tail, ValidatorCall.warnings,
        ValidatorCall.causes]
    · simp only [asked] at tail
      simp [runValidators, validatorCalls, asked, tail, ValidatorCall.warnings,
        ValidatorCall.causes]

end Pipeline
end JobGate
