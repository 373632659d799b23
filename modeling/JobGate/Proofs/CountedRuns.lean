import JobGate.Counters
import JobGate.Proofs.PipelineRuns
import Mathlib.Algebra.BigOperators.Group.List.Basic
import Mathlib.Algebra.GroupWithZero.Nat
import Mathlib.Data.List.Induction

/-!
What the counters say about admission. Every call of a controller is due an amount in each family
of counters (`Call.due`), and a run of a pipeline reports for each call just the events that
account for it (`events_review`, `Call.share_events`). So whatever runs record their events in one
set of counters, and however their reports are interleaved, the counters hold for every name what
its calls are due, as long as 64 bits hold it (`Counters.count_recordAll`, `share_interleaved`).
The events of a review account for its result too (`accounted_review`): as many warnings and causes
are reported as are returned, and a review that fails reports one failed mutator, last of all.
-/
namespace JobGate

variable {σ : Type}

/-- What is counted for each name. -/
inductive Family where
  | mutatorWarnings
  | mutatorErrors
  | mutatorMutations
  | validatorWarnings
  | validatorErrors
  deriving DecidableEq

/-- The counts of a family. -/
def Counters.tally (counters : Counters) : Family → Tally
  | .mutatorWarnings => counters.mutatorWarnings
  | .mutatorErrors => counters.mutatorErrors
  | .mutatorMutations => counters.mutatorMutations
  | .validatorWarnings => counters.validatorWarnings
  | .validatorErrors => counters.validatorErrors

namespace Event

def family : Event → Family
  | .mutatorWarnings _ _ => .mutatorWarnings
  | .mutatorError _ => .mutatorErrors
  | .mutatorMutation _ => .mutatorMutations
  | .validatorWarnings _ _ => .validatorWarnings
  | .validatorErrors _ _ => .validatorErrors

def name : Event → String
  | .mutatorWarnings name _ | .mutatorError name | .mutatorMutation name
  | .validatorWarnings name _ | .validatorErrors name _ => name

def amount : Event → Nat
  | .mutatorError _ | .mutatorMutation _ => 1
  | .mutatorWarnings _ count | .validatorWarnings _ count | .validatorErrors _ count => count

/-- How much an event adds to the count of a name in a family. -/
def share (family : Family) (name : String) (event : Event) : Nat :=
  if event.family = family ∧ event.name = name then event.amount else 0

def warnings : Event → Nat
  | .mutatorWarnings _ count | .validatorWarnings _ count => count
  | .mutatorError _ | .mutatorMutation _ | .validatorErrors _ _ => 0

def causes : Event → Nat
  | .validatorErrors _ count => count
  | .mutatorError _ | .mutatorMutation _ | .mutatorWarnings _ _ | .validatorWarnings _ _ => 0

end Event

theorem Tally.count_add (name other : String) (n : Nat) (tally : Tally) :
    (tally.add name n).count other =
      if other = name then (tally.count name + n) % range else tally.count other := by
  induction tally with
  | nil => simp [add, count, eq_comm]
  | cons entry rest ih =>
    obtain ⟨k, m⟩ := entry
    by_cases here : k = name
    · by_cases asked : other = name
      · simp [add, count, here, asked]
      · simp [add, count, here, asked, Ne.symm asked]
    · by_cases found : k = other
      · subst found
        simp [add, count, here]
      · simp [add, count, here, found, ih]

namespace Counters

theorem tally_record (counters : Counters) (event : Event) (family : Family) :
    (counters.record event).tally family =
      if event.family = family then (counters.tally family).add event.name event.amount
      else counters.tally family := by
  cases event <;> cases family <;> rfl

/-- Recording an event adds its share to every count. -/
theorem count_record (counters : Counters) (event : Event) (family : Family) (name : String) :
    ((counters.record event).tally family).count name =
      if event.family = family ∧ event.name = name then
        ((counters.tally family).count name + event.amount) % Tally.range
      else (counters.tally family).count name := by
  rw [tally_record]
  by_cases counted : event.family = family
  · by_cases named : event.name = name
    · simp [counted, named, Tally.count_add]
    · simp [counted, named, Tally.count_add, Ne.symm named]
  · simp [counted]

/-- Fresh counters hold the shares of all events recorded, whatever their order. -/
theorem count_recordAll (events : List Event) (family : Family) (name : String) :
    (((recordAll {} events).tally family).count name) =
      (events.map (Event.share family name)).sum % Tally.range := by
  induction events using List.reverseRecOn with
  | nil => cases family <;> rfl
  | append_singleton earlier event ih =>
    have last : recordAll {} (earlier ++ [event]) = (recordAll {} earlier).record event := by
      simp [recordAll]
    rw [last, count_record, ih, List.map_append, List.sum_append]
    by_cases counted : event.family = family ∧ event.name = name
    · simp [Event.share, counted]
    · simp [Event.share, counted]

end Counters

/-! ## What calls are due -/

/-- What the call of a mutator is due in a family: its warnings and its change count if it
    succeeded, else its failure. -/
def MutatorCall.due (call : MutatorCall σ) : Family → Nat
  | .mutatorWarnings => match call.answer with
    | .ok mutation => mutation.warnings.length
    | .error _ => 0
  | .mutatorErrors => match call.answer with
    | .ok _ => 0
    | .error _ => 1
  | .mutatorMutations => match call.answer with
    | .ok mutation => if mutation.mutated then 1 else 0
    | .error _ => 0
  | .validatorWarnings | .validatorErrors => 0

/-- What the call of a validator is due in a family: its warnings if it succeeded, and the causes
    that it contributes in any case. -/
def ValidatorCall.due (call : ValidatorCall σ) : Family → Nat
  | .validatorWarnings => match call.answer with
    | .ok verdict => verdict.warnings.length
    | .error _ => 0
  | .validatorErrors => call.causes.length
  | .mutatorWarnings | .mutatorErrors | .mutatorMutations => 0

/-- What a call is due in a family for a name. -/
def Call.due (family : Family) (name : String) : Call σ → Nat
  | .mutator call => if call.controller.name = name then call.due family else 0
  | .validator call => if call.controller.name = name then call.due family else 0
  | .identify _ _ | .send _ _ _ => 0

def MutatorCall.events (call : MutatorCall σ) : List Event :=
  match call.answer with
  | .ok mutation => mutation.events call.controller.name
  | .error _ => [.mutatorError call.controller.name]

def ValidatorCall.events (call : ValidatorCall σ) : List Event :=
  match call.answer with
  | .ok verdict => verdict.events call.controller.name
  | .error _ => [.validatorErrors call.controller.name call.causes.length]

def Call.events : Call σ → List Event
  | .mutator call => call.events
  | .validator call => call.events
  | .identify _ _ | .send _ _ _ => []

/-- A way of counting events under which an event with no amount counts nothing. -/
def Event.Measure (count : Event → Nat) : Prop :=
  ∀ event : Event, event.amount = 0 → count event = 0

theorem Event.measure_share (family : Family) (name : String) : Measure (share family name) := by
  intro event none
  simp [share, none]

theorem Event.measure_warnings : Measure warnings := by
  intro event none
  cases event <;> simp_all [amount, warnings]

theorem Event.measure_causes : Measure causes := by
  intro event none
  cases event <;> simp_all [amount, causes]

/-- An event that is left out where there is nothing to report would count nothing. -/
theorem Event.Measure.sum_reported {count : Event → Nat} (measure : Measure count) (event : Event)
    (silent : Bool) (nothing : silent = true → event.amount = 0) :
    ((if silent then [] else [event]).map count).sum = count event := by
  cases silent
  · simp
  · simp [measure event (nothing rfl)]

theorem Mutation.sum_events {count : Event → Nat} (measure : Event.Measure count) (name : String)
    (mutation : Mutation) :
    ((mutation.events name).map count).sum =
      (if mutation.mutated then count (.mutatorMutation name) else 0) +
        count (.mutatorWarnings name mutation.warnings.length) := by
  have warned := measure.sum_reported (.mutatorWarnings name mutation.warnings.length)
    mutation.warnings.isEmpty (by simp [Event.amount])
  rw [events, List.map_append, List.sum_append, warned]
  cases mutation.mutated <;> simp

theorem Verdict.sum_events {count : Event → Nat} (measure : Event.Measure count) (name : String)
    (verdict : Verdict) :
    ((verdict.events name).map count).sum =
      count (.validatorWarnings name verdict.warnings.length) +
        count (.validatorErrors name verdict.errors.list.length) := by
  have warned := measure.sum_reported (.validatorWarnings name verdict.warnings.length)
    verdict.warnings.isEmpty (by simp [Event.amount])
  have refused := measure.sum_reported (.validatorErrors name verdict.errors.list.length)
    verdict.errors.isEmpty (by simp [Event.amount, Causes.isEmpty])
  rw [events, List.map_append, List.sum_append, warned]
  exact congrArg _ refused

theorem MutatorCall.share_events (call : MutatorCall σ) (family : Family) (name : String) :
    (call.events.map (Event.share family name)).sum =
      if call.controller.name = name then call.due family else 0 := by
  obtain ⟨m, shown, failure | mutation⟩ := call
  · by_cases named : m.name = name
    · cases family <;>
        simp [events, due, Event.share, Event.family, Event.name, Event.amount, named]
    · simp [events, Event.share, Event.name, named]
  · rw [events, Mutation.sum_events (Event.measure_share family name)]
    by_cases named : m.name = name
    · cases family <;> simp [due, Event.share, Event.family, Event.name, Event.amount, named]
    · simp [Event.share, Event.name, named]

theorem ValidatorCall.share_events (call : ValidatorCall σ) (family : Family) (name : String) :
    (call.events.map (Event.share family name)).sum =
      if call.controller.name = name then call.due family else 0 := by
  obtain ⟨v, shown, failure | verdict⟩ := call
  · by_cases named : v.name = name
    · cases family <;>
        simp [events, due, Event.share, Event.family, Event.name, Event.amount, named]
    · simp [events, Event.share, Event.name, named]
  · rw [events, Verdict.sum_events (Event.measure_share family name)]
    by_cases named : v.name = name
    · cases family <;>
        simp [due, causes, Event.share, Event.family, Event.name, Event.amount, named]
    · simp [Event.share, Event.name, named]

/-- The events of a call are its dues, no matter in which family and for which name. -/
theorem Call.share_events (call : Call σ) (family : Family) (name : String) :
    (call.events.map (Event.share family name)).sum = call.due family name := by
  cases call with
  | mutator call => exact call.share_events family name
  | validator call => exact call.share_events family name
  | identify token answer => rfl
  | send errand request delivery => rfl

/-! ## What a run reports -/

namespace Pipeline

theorem events_runMutators (mutators : List (Mutator σ)) (payload : Payload) (s : σ) :
    (runMutators mutators payload s).1.events =
      (mutatorCalls mutators payload s).flatMap MutatorCall.events := by
  induction mutators generalizing payload s with
  | nil => rfl
  | cons m rest ih =>
    rcases asked : m.mutate payload s with ⟨failure | mutation, t⟩
    · simp [runMutators, mutatorCalls, asked, MutatorCall.events]
    · simp [runMutators, mutatorCalls, asked, MutatorCall.events, ih]

theorem events_runValidators (validators : List (Validator σ)) (payload : Payload) (s : σ) :
    (runValidators validators payload s).1.2 =
      (validatorCalls validators payload s).flatMap ValidatorCall.events := by
  induction validators generalizing s with
  | nil => rfl
  | cons v rest ih =>
    have tail := ih (v.validate payload s).2
    rcases asked : v.validate payload s with ⟨failure | verdict, t⟩
    · rw [asked] at tail
      simp [runValidators, validatorCalls, asked, tail, ValidatorCall.events, ValidatorCall.causes,
        Causes.count]
    · rw [asked] at tail
      simp [runValidators, validatorCalls, asked, tail, ValidatorCall.events]

/-- A review reports on each of its calls, in the order in which they are made. -/
theorem events_review (pipeline : Pipeline σ) (payload : Payload) (s : σ) :
    (pipeline.review payload s).1.events =
      (pipeline.mutations payload s).flatMap MutatorCall.events ++
        (pipeline.judgements payload s).flatMap ValidatorCall.events := by
  have reported := events_runMutators pipeline.mutators payload s
  rcases mutated : pipeline.mutate payload s with ⟨⟨refusal | admitted, events⟩, t⟩
  · have ran : (runMutators pipeline.mutators payload s).1.events = events := by
      rw [← mutate, mutated]
    simp [review, mutated, judgements, mutations, ← reported, ran]
  · have ran : (runMutators pipeline.mutators payload s).1.events = events := by
      rw [← mutate, mutated]
    have judged := events_runValidators pipeline.validators { payload with job := admitted.job } t
    simp [review, mutated, validate, judgements, mutations, ← reported, ran, judged]

/-- What is reported of a review is for every name what its calls are due. -/
theorem share_review (pipeline : Pipeline σ) (payload : Payload) (s : σ) (family : Family)
    (name : String) :
    ((pipeline.review payload s).1.events.map (Event.share family name)).sum =
      ((pipeline.reviewCalls payload s).map (Call.due family name)).sum := by
  have reported : (pipeline.review payload s).1.events =
      (pipeline.reviewCalls payload s).flatMap Call.events := by
    simp [events_review, reviewCalls, List.flatMap_map, Call.events]
  rw [reported]
  induction pipeline.reviewCalls payload s with
  | nil => rfl
  | cons call rest ih => simp [call.share_events, ih]

end Pipeline

/-- The events of a review account for its result: for as many warnings and causes as it returns,
    or, last of all and once, for the failure of the mutator that stopped it. -/
inductive Outcome.Accounted : Outcome Review → Prop where
  | reviewed {review : Review} {events : List Event}
      (warnings : (events.map Event.warnings).sum = review.warnings.length)
      (causes : (events.map Event.causes).sum = review.errors.list.length)
      (fine : ∀ name, .mutatorError name ∉ events) :
      Accounted ⟨.ok review, events⟩
  | refused {name : String} {failure : Failure} {earlier : List Event}
      (first : ∀ other, .mutatorError other ∉ earlier) :
      Accounted ⟨.error (.mutator name failure), earlier ++ [.mutatorError name]⟩

theorem MutatorCall.warnings_events (call : MutatorCall σ) :
    (call.events.map Event.warnings).sum = call.warnings.length := by
  obtain ⟨m, shown, failure | mutation⟩ := call
  · rfl
  · simp [events, warnings, Mutation.sum_events Event.measure_warnings, Event.warnings]

theorem MutatorCall.causes_events (call : MutatorCall σ) :
    (call.events.map Event.causes).sum = 0 := by
  obtain ⟨m, shown, failure | mutation⟩ := call
  · rfl
  · simp [events, Mutation.sum_events Event.measure_causes, Event.causes]

/-- Only a failed mutator is reported as one. -/
theorem MutatorCall.not_mutatorError {call : MutatorCall σ} (succeeded : call.Succeeded)
    (name : String) : .mutatorError name ∉ call.events := by
  obtain ⟨mutation, answered⟩ := succeeded
  simp [events, answered, Mutation.events]

theorem ValidatorCall.warnings_events (call : ValidatorCall σ) :
    (call.events.map Event.warnings).sum = call.warnings.length := by
  obtain ⟨v, shown, failure | verdict⟩ := call
  · rfl
  · simp [events, warnings, Verdict.sum_events Event.measure_warnings, Event.warnings]

theorem ValidatorCall.causes_events (call : ValidatorCall σ) :
    (call.events.map Event.causes).sum = call.causes.length := by
  obtain ⟨v, shown, failure | verdict⟩ := call
  · simp [events, Event.causes]
  · simp [events, causes, Verdict.sum_events Event.measure_causes, Event.causes]

theorem ValidatorCall.not_mutatorError (call : ValidatorCall σ) (name : String) :
    .mutatorError name ∉ call.events := by
  obtain ⟨v, shown, failure | verdict⟩ := call
  · simp [events]
  · simp [events, Verdict.events]

/-- Counts of a list of calls add up to as many things as the calls bring together. -/
theorem sum_events {κ α : Type} (calls : List κ) {events : κ → List Event} {count : Event → Nat}
    (brought : κ → List α) (each : ∀ call, ((events call).map count).sum = (brought call).length) :
    ((calls.flatMap events).map count).sum = (calls.flatMap brought).length := by
  induction calls with
  | nil => rfl
  | cons call rest ih => simp [each, ← ih]

theorem Pipeline.accounted_review (pipeline : Pipeline σ) (payload : Payload) (s : σ) :
    (pipeline.review payload s).1.Accounted := by
  have run := pipeline.reference_review payload s
  have reported := pipeline.events_review payload s
  generalize pipeline.mutations payload s = mutations at run reported
  generalize pipeline.judgements payload s = judgements at run reported
  generalize pipeline.review payload s = reviewed at run reported ⊢
  obtain ⟨⟨result, events⟩, t⟩ := reviewed
  obtain rfl := reported
  cases run with
  | @stopped earlier last failure _ _ succeeded failed =>
    have tail : last.events = [.mutatorError last.controller.name] := by
      simp [MutatorCall.events, failed]
    have ordered : (earlier ++ [last]).flatMap MutatorCall.events ++ ([] : List Event) =
        earlier.flatMap MutatorCall.events ++ [.mutatorError last.controller.name] := by
      simp [tail]
    simp only [List.flatMap_nil, ordered]
    refine .refused fun other reported => ?_
    obtain ⟨call, made, there⟩ := List.mem_flatMap.mp reported
    exact MutatorCall.not_mutatorError (succeeded call made) other there
  | finished run all succeeded judged shown played adds =>
    obtain rfl := (ValidatorCall.forall₂_adds_iff _ _).mp adds
    refine .reviewed ?_ ?_ ?_
    · have mutated := sum_events mutations MutatorCall.warnings MutatorCall.warnings_events
      have validated := sum_events judgements ValidatorCall.warnings ValidatorCall.warnings_events
      rw [List.map_append, List.sum_append, mutated, validated, List.length_append]
    · have mutated := sum_events mutations (fun _ => ([] : List String)) MutatorCall.causes_events
      have validated := sum_events judgements ValidatorCall.causes ValidatorCall.causes_events
      rw [List.map_append, List.sum_append, mutated, validated]
      simp [List.flatMap_def]
    · intro name reported
      rcases List.mem_append.mp reported with there | there
      · obtain ⟨call, made, there⟩ := List.mem_flatMap.mp there
        exact MutatorCall.not_mutatorError (succeeded call made) name there
      · obtain ⟨call, made, there⟩ := List.mem_flatMap.mp there
        exact call.not_mutatorError name there

/-! ## Admissions that share counters -/

/-- A list is an interleaving of several: it comes about by taking the head of any one of them,
    again and again, until all are empty. -/
inductive Interleaving {α : Type} : List (List α) → List α → Prop where
  | done {runs : List (List α)} (spent : ∀ run ∈ runs, run = []) : Interleaving runs []
  | next (before : List (List α)) {after : List (List α)} {a : α} {rest merged : List α}
      (later : Interleaving (before ++ rest :: after) merged) :
      Interleaving (before ++ (a :: rest) :: after) (a :: merged)

theorem Interleaving.perm {α : Type} {runs : List (List α)} {merged : List α}
    (interleaved : Interleaving runs merged) : merged.Perm runs.flatten := by
  induction interleaved with
  | done spent => simpa using spent
  | @next before after a rest merged _ ih =>
    have split : (before ++ (a :: rest) :: after).flatten =
        before.flatten ++ a :: (rest ++ after.flatten) := by simp
    have shorter : (before ++ rest :: after).flatten =
        before.flatten ++ (rest ++ after.flatten) := by simp
    rw [shorter] at ih
    rw [split]
    exact (ih.cons a).trans List.perm_middle.symm

/-- One run of a pipeline. Whatever else happens while it runs is part of the state that its
    controllers meet. -/
structure Admission where
  State : Type
  pipeline : Pipeline State
  payload : Payload
  start : State
  /-- Whether errors of validators refuse the job. -/
  enforced : Bool

namespace Admission

/-- What the admission reports, in order. -/
def events (admission : Admission) : List Event :=
  if admission.enforced then
    (admission.pipeline.enforce admission.payload admission.start).1.events
  else (admission.pipeline.review admission.payload admission.start).1.events

/-- The calls of controllers that the admission makes, as written down by the controllers. -/
def calls (admission : Admission) : List (Call admission.State) :=
  if admission.enforced then
    (admission.pipeline.watched.enforce admission.payload (admission.start, [])).2.2
  else (admission.pipeline.watched.review admission.payload (admission.start, [])).2.2

/-- What the calls of all admissions are due together. -/
def due (admissions : List Admission) (family : Family) (name : String) : Nat :=
  (admissions.map fun admission => (admission.calls.map (Call.due family name)).sum).sum

theorem share_events (admission : Admission) (family : Family) (name : String) :
    (admission.events.map (Event.share family name)).sum =
      (admission.calls.map (Call.due family name)).sum := by
  have reviewed := admission.pipeline.share_review admission.payload admission.start family name
  have listed : admission.calls =
      admission.pipeline.reviewCalls admission.payload admission.start := by
    rw [calls, Pipeline.enforce_watched, Pipeline.review_watched]
    simp
  have reported : admission.events =
      (admission.pipeline.review admission.payload admission.start).1.events := by
    simp [events, Pipeline.enforce]
  rw [listed, reported, reviewed]

/-- Reports of several admissions hold what the calls of all of them are due. -/
theorem share_interleaved {admissions : List Admission} {recorded : List Event}
    (interleaved : Interleaving (admissions.map events) recorded) (family : Family)
    (name : String) :
    (recorded.map (Event.share family name)).sum = due admissions family name := by
  calc (recorded.map (Event.share family name)).sum
      = ((admissions.map events).flatten.map (Event.share family name)).sum :=
        (interleaved.perm.map (Event.share family name)).sum_eq
    _ = (admissions.map fun admission =>
          (admission.events.map (Event.share family name)).sum).sum := by
        simp [List.map_flatten, List.sum_flatten, Function.comp_def]
    _ = due admissions family name := by
        simp [share_events, due]

end Admission

/-- Counters that are shared by admissions hold, for every family and name, what the calls of
    controllers with that name are due, however the reports of the admissions are interleaved and as
    long as the total fits the counter. And every review's own events account for its result. -/
theorem Counters.account_for_admissions (admissions : List Admission) {recorded : List Event}
    (interleaved : Interleaving (admissions.map Admission.events) recorded) :
    (∀ family name, Admission.due admissions family name < Tally.range →
      ((recordAll {} recorded).tally family).count name =
        Admission.due admissions family name) ∧
    ∀ admission : Admission,
      (admission.pipeline.review admission.payload admission.start).1.Accounted := by
  refine ⟨fun family name fits => ?_, fun admission => Pipeline.accounted_review _ _ _⟩
  rw [count_recordAll, Admission.share_interleaved interleaved]
  exact Nat.mod_eq_of_lt fits

/-- A mutator that changes nothing but says that it did, with two warnings. -/
def busyMutator : Mutator Unit where
  name := "edit"
  resolvesToken := false
  mutate payload s := (.ok ⟨payload.job, true, ["first", "second"]⟩, s)

def brokenMutator : Mutator Unit where
  name := "edit"
  resolvesToken := false
  mutate _ s := (.error (.plain "broken" []), s)

/-- A validator that fails with two causes. -/
def severeValidator : Validator Unit where
  name := "judge"
  resolvesToken := false
  validate _ s := (.error (.context "while judging" (.many ⟨["one", "other"]⟩)), s)

/-- Two admissions whose mutators have one name: the one is judged severely, the other fails. -/
def twoAdmissions : List Admission :=
  [⟨Unit, ⟨[busyMutator], [severeValidator]⟩, ⟨Job.empty, none⟩, (), false⟩,
    ⟨Unit, ⟨[brokenMutator], [severeValidator]⟩, ⟨Job.empty, none⟩, (), true⟩]

/-- What the two report, one after the other by turns. -/
def twoReports : List Event :=
  [.mutatorMutation "edit", .mutatorError "edit", .mutatorWarnings "edit" 2,
    .validatorErrors "judge" 2]

theorem Counters.two_admissions_accounted_for :
    Interleaving (twoAdmissions.map Admission.events) twoReports ∧
      Admission.due twoAdmissions .mutatorWarnings "edit" = 2 ∧
      ((recordAll {} twoReports).tally .mutatorWarnings).count "edit" =
        Admission.due twoAdmissions .mutatorWarnings "edit" := by
  have interleaved : Interleaving (twoAdmissions.map Admission.events) twoReports := by
    refine .next [] (.next [_] (.next [] (.next [] (.done ?_))))
    simp
  have two : Admission.due twoAdmissions .mutatorWarnings "edit" = 2 := by decide
  have fits : Admission.due twoAdmissions .mutatorWarnings "edit" < Tally.range := by
    rw [two]
    decide
  exact ⟨interleaved, two, (account_for_admissions twoAdmissions interleaved).1 _ _ fits⟩

end JobGate
