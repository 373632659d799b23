import JobGate.Policy.Engine
import JobGate.Webhook
import JobGate.Proofs.ForwardedRequests

/-!
Collaborators that break. A policy breaks when its evaluation fails or yields no result set, a
webhook when no complete reply that reports a success comes back, or one that cannot be read. A
controller that asks a broken collaborator fails (`Mutator.MeetsBroken.fails`,
`Validator.MeetsBroken.fails`), and with a cause. So wherever it stands among others, the job is not
admitted as if nothing had been found (`Pipeline.MeetsBroken.errors`): it is refused, or there are
errors to report where it is only validated (`broken_collaborator_keeps_out`).
-/
namespace JobGate

variable {σ κ α : Type}

/-- What comes back for a consultation is no answer. -/
inductive Delivery.NoAnswer (reads : Decoder α) : Delivery → Prop where
  | failed (e : TransportError) : NoAnswer reads (.failed e)
  | silent : NoAnswer reads .silent
  | cut {reply : Reply} (broken : reply.complete = false) : NoAnswer reads (.reply reply)
  | status {reply : Reply} (refused : isSuccess reply.status = false) :
      NoAnswer reads (.reply reply)
  | undecodable {reply : Reply} {e : DecodeError}
      (failed : decodeBytes reads reply.body = .error e) : NoAnswer reads (.reply reply)

/-- The webhook at an endpoint breaks when it is asked about a payload. -/
def Network.Breaks (net : Network σ) (endpoint : Endpoint) (reads : Decoder α) (payload : Payload)
    (s : σ) : Prop :=
  (net.send .consult (endpoint.consultation payload) s).1.NoAnswer reads

/-- The engine breaks when it is asked about a payload: it fails, or yields no result set. -/
def PolicyEngine.Breaks (engine : PolicyEngine σ) (payload : Payload) (s : σ) : Prop :=
  (∃ chain, (engine.eval payload.toJson s).1 = .error chain) ∨
    (engine.eval payload.toJson s).1 = .ok []

/-- A reply that is an answer arrived whole, reports a success, and can be read. -/
theorem Reply.answer_ok {reads : Decoder α} {reply : Reply} {a : α}
    (answered : reply.answer reads = .ok a) :
    reply.complete = true ∧ isSuccess reply.status = true ∧
      decodeBytes reads reply.body = .ok a := by
  rcases complete : reply.complete
  · simp [Reply.answer, complete] at answered
  · rcases success : isSuccess reply.status
    · simp [Reply.answer, complete, success] at answered
    · rcases decoded : decodeBytes reads reply.body with e | b
      · simp [Reply.answer, complete, success, decoded] at answered
      · obtain rfl : b = a := by simpa [Reply.answer, complete, success, decoded] using answered
        exact ⟨rfl, rfl, rfl⟩

theorem Delivery.NoAnswer.reply_answer {reads : Decoder α} {reply : Reply}
    (none : NoAnswer reads (.reply reply)) : ∃ e, reply.answer reads = .error e := by
  rcases answered : reply.answer reads with e | a
  · exact ⟨e, rfl⟩
  · obtain ⟨complete, success, decoded⟩ := Reply.answer_ok answered
    cases none with
    | cut broken => simp [complete] at broken
    | status refused => simp [success] at refused
    | undecodable failed => simp [decoded] at failed

theorem Network.Breaks.consult {net : Network σ} {endpoint : Endpoint} {reads : Decoder α}
    {payload : Payload} {s : σ} (broken : net.Breaks endpoint reads payload s) :
    ∃ e t, net.consult endpoint reads payload s = (.error e, t) := by
  rw [Network.Breaks] at broken
  rcases went : net.send .consult (endpoint.consultation payload) s with ⟨reply | e | _, t⟩
  · rw [went] at broken
    obtain ⟨e, failed⟩ := broken.reply_answer
    exact ⟨e, t, by simp [Network.consult, Network.ask, went, failed]⟩
  · exact ⟨.request e, t, by simp [Network.consult, Network.ask, went]⟩
  · exact ⟨.request .silent, t, by simp [Network.consult, Network.ask, went]⟩

/-- What a webhook says is read off the reply that comes back. -/
theorem Network.consult_ok {net : Network σ} {endpoint : Endpoint} {reads : Decoder α}
    {payload : Payload} {s t : σ} {reply : Reply} {a : α}
    (replied : (net.send .consult (endpoint.consultation payload) s).1 = .reply reply)
    (asked : net.consult endpoint reads payload s = (.ok a, t)) : reply.answer reads = .ok a := by
  rcases went : net.send .consult (endpoint.consultation payload) s with ⟨delivery, u⟩
  rw [went] at replied
  obtain rfl : delivery = .reply reply := replied
  simp only [Network.consult, Network.ask, went, Prod.mk.injEq] at asked
  exact asked.1

theorem PolicyEngine.Breaks.ask {engine : PolicyEngine σ} {payload : Payload} {s : σ}
    (broken : engine.Breaks payload s) : ∃ e t, engine.ask payload s = (.error e, t) := by
  rcases evaluated : engine.eval payload.toJson s with ⟨result, t⟩
  rw [PolicyEngine.Breaks, evaluated] at broken
  obtain ⟨chain, rfl⟩ | rfl := broken
  · exact ⟨.eval chain, t, by simp [PolicyEngine.ask, evaluated]⟩
  · exact ⟨.noResult, t, by simp [PolicyEngine.ask, evaluated, Proposal.ofSets]⟩

/-- The mutator asks a collaborator about a payload, and that breaks. -/
inductive Mutator.MeetsBroken (payload : Payload) (s : σ) : Mutator σ → Prop where
  | policy {name : String} {token : Bool} {engine : PolicyEngine σ}
      (broken : engine.Breaks payload s) : MeetsBroken payload s (engine.mutator name token)
  | patch {net : Network σ} {name : String} {token : Bool} {endpoint : Endpoint}
      (broken : net.Breaks endpoint Proposal.decoder payload s) :
      MeetsBroken payload s (patchWebhook net name token endpoint)
  | document {net : Network σ} {name : String} {token : Bool} {endpoint : Endpoint}
      (broken : net.Breaks endpoint (Decoder.optional Job.decoder) payload s) :
      MeetsBroken payload s (documentWebhook net name token endpoint)
  /-- The whole document is wanted, and the answer is that there is none. -/
  | null {net : Network σ} {name : String} {token : Bool} {endpoint : Endpoint} {reply : Reply}
      (replied : (net.send .consult (endpoint.consultation payload) s).1 = .reply reply)
      (null : decodeBytes (Decoder.optional Job.decoder) reply.body = .ok none) :
      MeetsBroken payload s (documentWebhook net name token endpoint)

/-- The validator asks a collaborator about a payload, and that breaks. -/
inductive Validator.MeetsBroken (payload : Payload) (s : σ) : Validator σ → Prop where
  | policy {name : String} {token : Bool} {engine : PolicyEngine σ}
      (broken : engine.Breaks payload s) : MeetsBroken payload s (engine.validator name token)
  | verdict {net : Network σ} {name : String} {token : Bool} {endpoint : Endpoint}
      (broken : net.Breaks endpoint Verdict.decoder payload s) :
      MeetsBroken payload s (verdictWebhook net name token endpoint)

theorem Mutator.MeetsBroken.fails {m : Mutator σ} {payload : Payload} {s : σ}
    (meets : m.MeetsBroken payload s) : ∃ failure, (m.mutate payload s).1 = .error failure := by
  cases meets with
  | policy broken =>
    obtain ⟨e, t, failed⟩ := broken.ask
    exact ⟨e.asFailure, by simp [PolicyEngine.mutator, failed]⟩
  | patch broken =>
    obtain ⟨e, t, failed⟩ := broken.consult
    exact ⟨e.asFailure, by simp [patchWebhook, failed]⟩
  | document broken =>
    obtain ⟨e, t, failed⟩ := broken.consult
    exact ⟨e.asFailure, by simp [documentWebhook, failed]⟩
  | @null net name token endpoint reply replied null =>
    rcases asked : net.consult endpoint (Decoder.optional Job.decoder) payload s with
      ⟨e | answer, t⟩
    · exact ⟨e.asFailure, by simp [documentWebhook, asked]⟩
    · obtain ⟨_, _, decoded⟩ := Reply.answer_ok (Network.consult_ok replied asked)
      obtain rfl : none = answer := Except.ok.inj (null.symm.trans decoded)
      exact ⟨WebhookError.noJob.asFailure, by simp [documentWebhook, asked, Job.replacement]⟩

/-- The failure is one line: no causes are reported together in it. -/
theorem Validator.MeetsBroken.fails {v : Validator σ} {payload : Payload} {s : σ}
    (meets : v.MeetsBroken payload s) :
    ∃ failure, (v.validate payload s).1 = .error failure ∧ ∀ causes, ¬ failure.Holds causes := by
  cases meets with
  | policy broken =>
    obtain ⟨e, t, failed⟩ := broken.ask
    exact ⟨e.asFailure, by simp [PolicyEngine.validator, failed], nofun⟩
  | verdict broken =>
    obtain ⟨e, t, failed⟩ := broken.consult
    exact ⟨e.asFailure, by simp [verdictWebhook, failed], nofun⟩

/-! ## Calls -/

namespace ControllerCall

variable {ask : κ → Payload → σ → Except Failure α × σ} {s t u : σ}
  {calls : List (ControllerCall κ α)} {call : ControllerCall κ α}

/-- The call is one of these, which are made one after another, and it is made in that state. -/
def MadeIn (ask : κ → Payload → σ → Except Failure α × σ) (s : σ)
    (calls : List (ControllerCall κ α)) (call : ControllerCall κ α) (t : σ) : Prop :=
  ∃ earlier later, calls = earlier ++ call :: later ∧ Played ask s earlier t

theorem MadeIn.mem (made : MadeIn ask s calls call t) : call ∈ calls := by
  obtain ⟨earlier, later, rfl, _⟩ := made
  simp

/-- Calls that are played leave one state. -/
theorem Played.unique (played : Played ask s calls t) (again : Played ask s calls u) : t = u := by
  induction calls generalizing s with
  | nil => exact played.symm.trans again
  | cons first rest ih => exact ih played.2 again.2

/-- The answer to a call is the one that the controller gives in the state that it is asked in. -/
theorem MadeIn.answer (made : MadeIn ask s calls call t) (played : Played ask s calls u) :
    (ask call.controller call.shown t).1 = call.answer := by
  obtain ⟨earlier, later, rfl, before⟩ := made
  induction earlier generalizing s with
  | nil =>
    obtain rfl : s = t := before
    exact played.1
  | cons first rest ih => exact ih before.2 played.2

end ControllerCall

namespace Pipeline

/-- Some controller that is asked in a review meets a broken collaborator. -/
inductive MeetsBroken (pipeline : Pipeline σ) (payload : Payload) (s : σ) : Prop where
  | mutator {call : MutatorCall σ} {t : σ}
      (made : ControllerCall.MadeIn Mutator.mutate s (pipeline.mutations payload s) call t)
      (broken : call.controller.MeetsBroken call.shown t)
  | validator {call : ValidatorCall σ} {t u : σ}
      (mutated : ControllerCall.Played Mutator.mutate s (pipeline.mutations payload s) t)
      (made : ControllerCall.MadeIn Validator.validate t (pipeline.judgements payload s) call u)
      (broken : call.controller.MeetsBroken call.shown u)

/-- In a review that is not stopped the mutators succeed one after another, then the validators
    answer, and what they find are the errors. -/
theorem Reference.finished_played {pipeline : Pipeline σ} {payload : Payload} {s t : σ}
    {mutations : List (MutatorCall σ)} {judgements : List (ValidatorCall σ)} {review : Review}
    (run : Reference pipeline payload s mutations judgements (.ok review) t) :
    (∀ call ∈ mutations, call.Succeeded) ∧
      review.errors.list = (judgements.map ValidatorCall.causes).flatten ∧
        ∃ u, ControllerCall.Played Mutator.mutate s mutations u ∧
          ControllerCall.Played Validator.validate u judgements t := by
  cases run with
  | finished run all succeeded judged shown played adds =>
    obtain rfl := (ValidatorCall.forall₂_adds_iff _ _).mp adds
    exact ⟨succeeded, rfl, _, run.played, played⟩

/-- A review in which a collaborator breaks is stopped, or finds errors. -/
theorem MeetsBroken.errors {pipeline : Pipeline σ} {payload : Payload} {s : σ}
    (meets : pipeline.MeetsBroken payload s) {review : Review}
    (reviewed : (pipeline.review payload s).1.result = .ok review) : review.errors.list ≠ [] := by
  have run := reference_review pipeline payload s
  rw [reviewed] at run
  obtain ⟨succeeded, errors, u, mutations, judgements⟩ := run.finished_played
  cases meets with
  | mutator made broken =>
    obtain ⟨failure, failed⟩ := broken.fails
    obtain ⟨mutation, answered⟩ := succeeded _ made.mem
    rw [made.answer mutations, answered] at failed
    cases failed
  | validator mutated made broken =>
    obtain rfl := mutations.unique mutated
    obtain ⟨failure, failed, single⟩ := broken.fails
    rw [made.answer judgements] at failed
    intro none
    rw [errors] at none
    rcases (ValidatorCall.no_causes_iff _).mp none _ made.mem with ⟨warnings, passed⟩ |
      ⟨other, same, holds⟩
    · simp [failed] at passed
    · obtain rfl : failure = other := by simpa [failed] using same
      exact single _ holds

/-- A job is not admitted over a broken collaborator. -/
theorem MeetsBroken.not_enforced {pipeline : Pipeline σ} {payload : Payload} {s : σ}
    (meets : pipeline.MeetsBroken payload s) :
    ∃ refusal, (pipeline.enforce payload s).1.result = .error refusal := by
  rcases ran : (pipeline.enforce payload s).1.result with refusal | admitted
  · exact ⟨refusal, rfl⟩
  · obtain ⟨review, reviewed, clean, _⟩ := reviewed_of_enforce ran
    exact absurd clean (meets.errors reviewed)

end Pipeline

namespace Gateway

/-! ## The gate -/

/-- Some controller that is asked about a request meets a broken collaborator: in the state that
    the calls before it left, from the one in which the caller was known. -/
inductive MeetsBroken (gate : Gateway σ) (request : Incoming) (s : σ) : Prop where
  | mutator {caller : Caller} {call : MutatorCall σ} {t u : σ}
      (identified : gate.Identifies request.headers s caller t)
      (made : ControllerCall.MadeIn Mutator.mutate t
        ((gate.record request s).filterMap Call.mutator?) call u)
      (broken : call.controller.MeetsBroken call.shown u)
  | validator {caller : Caller} {call : ValidatorCall σ} {t u v : σ}
      (identified : gate.Identifies request.headers s caller t)
      (mutated : ControllerCall.Played Mutator.mutate t
        ((gate.record request s).filterMap Call.mutator?) u)
      (made : ControllerCall.MadeIn Validator.validate u
        ((gate.record request s).filterMap Call.validator?) call v)
      (broken : call.controller.MeetsBroken call.shown v)

section
variable {gate : Gateway σ} {route : Route} {request : Incoming} {s t : σ} {caller : Caller}

/-- The controllers that are asked about a submission are those asked about the job in its body. -/
theorem kinds_submission (identified : gate.Identifies request.headers s caller t)
    (classified : Route.ofRequest? request.method request.uri.path = some route) :
    (gate.record request s).filterMap Call.mutator? =
        (gate.submissionCalls request caller t).filterMap Call.mutator? ∧
      (gate.record request s).filterMap Call.validator? =
        (gate.submissionCalls request caller t).filterMap Call.validator? := by
  obtain ⟨callerMutators, callerValidators, _⟩ := gate.kinds_callerCalls request.headers s
  have prepared : gate.prepareCalls request s =
      gate.callerCalls request.headers s ++ gate.submissionCalls request caller t := by
    simp [prepareCalls, identified.caller, classified]
  rw [record_eq_calls, calls, prepared]
  rcases gate.prepare request s with ⟨⟨fault | ⟨out, report⟩, events⟩, u⟩
  · simp [callerMutators, callerValidators]
  · obtain ⟨noMutators, noValidators, _⟩ := kinds_sendCalls gate.network .forward out u
    simp [callerMutators, callerValidators, noMutators, noValidators]

/-- No controller is asked about a body that is no submission. -/
theorem opens_of_asked {call : Call σ} (asked : call ∈ gate.submissionCalls request caller t) :
    ∃ body plain submission, Opens request body plain submission ∧
      gate.submissionCalls request caller t =
        gate.pipeline.reviewCalls ⟨submission.job, some caller⟩ t := by
  rcases read : request.body with reason | body
  · simp [submissionCalls, read] at asked
  · rcases inflated : decodeBody request.headers.declaresGzip body with e | plain
    · simp [submissionCalls, read, admissionCalls, openBody, inflated] at asked
    · rcases decoded : decodeBytes Submission.decoder plain with e | submission
      · simp [submissionCalls, read, admissionCalls, openBody, inflated, decoded] at asked
      · refine ⟨body, plain, submission, ⟨read, inflated, decoded⟩, ?_⟩
        simp [submissionCalls, read, admissionCalls, openBody, inflated, decoded]

/-- A collaborator that breaks does so in the review of the job in the body. -/
theorem MeetsBroken.review (meets : gate.MeetsBroken request s)
    (classified : Route.ofRequest? request.method request.uri.path = some route) :
    ∃ caller t body plain submission, gate.Identifies request.headers s caller t ∧
      Opens request body plain submission ∧
      gate.pipeline.MeetsBroken ⟨submission.job, some caller⟩ t := by
  cases meets with
  | mutator identified made broken =>
    obtain ⟨mutators, validators⟩ := kinds_submission identified classified
    rw [mutators] at made
    obtain ⟨call, asked, _⟩ := List.mem_filterMap.mp made.mem
    obtain ⟨body, plain, submission, opened, calls⟩ := opens_of_asked asked
    obtain ⟨mutations, judgements, _⟩ :=
      kinds_reviewCalls gate.pipeline ⟨submission.job, some _⟩ _
    rw [calls, mutations] at made
    exact ⟨_, _, body, plain, submission, identified, opened, .mutator made broken⟩
  | validator identified mutated made broken =>
    obtain ⟨mutators, validators⟩ := kinds_submission identified classified
    rw [validators] at made
    rw [mutators] at mutated
    obtain ⟨call, asked, _⟩ := List.mem_filterMap.mp made.mem
    obtain ⟨body, plain, submission, opened, calls⟩ := opens_of_asked asked
    obtain ⟨mutations, judgements, _⟩ :=
      kinds_reviewCalls gate.pipeline ⟨submission.job, some _⟩ _
    rw [calls, mutations] at mutated
    rw [calls, judgements] at made
    exact ⟨_, _, body, plain, submission, identified, opened, .validator mutated made broken⟩

/-- The request is not sent, and is answered with the fault. -/
def Rejects (gate : Gateway σ) (request : Incoming) (s : σ) (fault : Fault) : Prop :=
  (gate.record request s).filterMap Call.sent? = [] ∧
    (gate.handle request s).1.1 = fault.reply

theorem rejects_of_prepare_error {fault : Fault}
    (failed : (gate.prepare request s).1.result = .error fault) : gate.Rejects request s fault := by
  rw [Rejects, record_eq_calls]
  exact unsent_of_prepare_error failed

/-- A job is not registered or planned over a broken collaborator: the request is rejected before
    anything is sent. A job that is only validated is rejected too, or there are errors to report on
    it. -/
theorem broken_collaborator_keeps_out
    (classified : Route.ofRequest? request.method request.uri.path = some route)
    (meets : gate.MeetsBroken request s) :
    (route ≠ .validate → ∃ refusal, gate.Rejects request s (.admission refusal)) ∧
      (route = .validate → (∃ fault, gate.Rejects request s fault) ∨
        ∃ out report causes, (gate.prepare request s).1.result = .ok (out, some report) ∧
          report.validation = some causes ∧ causes.list ≠ []) := by
  obtain ⟨caller, t, body, plain, submission, identified, opened, broken⟩ := meets.review classified
  have rejected {refusal : Refusal} (refused : gate.pipeline.admission route
      ⟨submission.job, some caller⟩ t = .error refusal) :
      gate.Rejects request s (.admission refusal) :=
    rejects_of_prepare_error ((Stops.admission identified opened refused).prepare classified)
  obtain ⟨refusal, refused⟩ := broken.not_enforced
  constructor
  · intro enforced
    refine ⟨refusal, rejected ?_⟩
    cases route with
    | register => simp [Pipeline.admission, refused, Except.map]
    | plan => simp [Pipeline.admission, refused, Except.map]
    | validate => exact absurd rfl enforced
  · rintro rfl
    rcases ran : (gate.pipeline.review ⟨submission.job, some caller⟩ t).1.result with
      stopped | review
    · exact .inl ⟨.admission stopped, rejected (by simp [Pipeline.admission, ran, Except.map])⟩
    · have passes : gate.Passes .validate request s submission caller t review.job :=
        ⟨identified, ⟨body, plain, opened⟩, by simp [Pipeline.admission, ran, Except.map]⟩
      obtain ⟨report, events, u, prepared, _, again, reviewed, _, rfl⟩ := passes.prepare classified
      obtain rfl : again = review := Except.ok.inj (reviewed.symm.trans ran)
      rcases made : gate.resubmission request submission again.job with fault | out
      · exact .inl ⟨fault, rejects_of_prepare_error (by simp [prepared, made, Except.map])⟩
      · have errors := broken.errors ran
        refine .inr ⟨out, again.report .validate, again.errors, ?_, ?_, errors⟩
        · simp [prepared, made, Except.map]
        · simp [Review.report, Report.addCauses, Causes.isEmpty, errors]

end

/-- A network in which nobody is ready to answer. -/
def unavailable : Network Unit where
  dispatch _ _ s := (.reply { status := 503, headers := [], body := Utf8.encode "\x7b\x7d" }, s)

def hookEndpoint : Endpoint := ⟨⟨some "http", "localhost:8080", PathQuery.none⟩, "POST"⟩

/-- A validator that asks a webhook which is not ready. -/
def unreadyHook : Validator Unit := verdictWebhook unavailable "hook" false hookEndpoint

theorem unreadyHook_meetsBroken (payload : Payload) : unreadyHook.MeetsBroken payload () := by
  refine .verdict ?_
  have replied : unavailable.send .consult (hookEndpoint.consultation payload) () =
      (.reply { status := 503, headers := [], body := Utf8.encode "\x7b\x7d" }, ()) := rfl
  rw [Network.Breaks, replied]
  exact .status rfl

/-- A gate that asks the webhook between two other validators. -/
def unreadyGate : Gateway Unit :=
  { warningGate compressedReply with pipeline := ⟨[], [reminder, unreadyHook, lenient]⟩ }

def submissionTo (path : String) : Incoming :=
  { plainRegistration with uri := ⟨none, "", ⟨path, none⟩⟩ }

def emptyPayload : Payload := ⟨Job.empty, some ⟨"", "", none⟩⟩

/-- The webhook breaks whenever it is asked about the empty job. -/
theorem unreadyGate_meetsBroken {path : String} {route : Route}
    (classified : Route.ofRequest? (submissionTo path).method (submissionTo path).uri.path =
      some route) :
    unreadyGate.MeetsBroken (submissionTo path) () := by
  have identified : unreadyGate.Identifies (submissionTo path).headers () ⟨"", "", none⟩ () :=
    .unasked fun source token asked => by cases asked.2.1
  have opened : openBody (submissionTo path).headers emptyJobText = .ok ⟨Job.empty, []⟩ := by
    show openBody [] emptyJobText = .ok ⟨Job.empty, []⟩
    decide +kernel
  have calls : unreadyGate.submissionCalls (submissionTo path) ⟨"", "", none⟩ () =
      unreadyGate.pipeline.reviewCalls emptyPayload () := by
    have read : (submissionTo path).body = .ok emptyJobText := rfl
    simp only [submissionCalls, read, admissionCalls, opened, emptyPayload]
  obtain ⟨mutators, validators⟩ := kinds_submission identified classified
  obtain ⟨mutations, judgements, _⟩ :=
    kinds_reviewCalls unreadyGate.pipeline emptyPayload ()
  have mutated : ControllerCall.Played Mutator.mutate ()
      ((unreadyGate.record (submissionTo path) ()).filterMap Call.mutator?) () := by
    rw [mutators, calls, mutations]
    rfl
  have made : ControllerCall.MadeIn Validator.validate ()
      ((unreadyGate.record (submissionTo path) ()).filterMap Call.validator?)
      ⟨unreadyHook, emptyPayload, (unreadyHook.validate emptyPayload ()).1⟩ () := by
    rw [validators, calls, judgements]
    exact ⟨[⟨reminder, emptyPayload, (reminder.validate emptyPayload ()).1⟩],
      [⟨lenient, emptyPayload, (lenient.validate emptyPayload ()).1⟩], rfl, rfl, rfl⟩
  exact .validator identified mutated made (unreadyHook_meetsBroken emptyPayload)

/-- The sample keeps its job from being registered, and reports an error on one that is only
    validated. -/
theorem unready_hook_keeps_out :
    Route.ofRequest? (submissionTo "/v1/jobs").method (submissionTo "/v1/jobs").uri.path =
        some .register ∧
      Route.ofRequest? (submissionTo "/v1/validate/job").method
        (submissionTo "/v1/validate/job").uri.path = some .validate ∧
      unreadyGate.MeetsBroken (submissionTo "/v1/jobs") () ∧
      unreadyGate.MeetsBroken (submissionTo "/v1/validate/job") () ∧
      (∃ refusal, unreadyGate.Rejects (submissionTo "/v1/jobs") () (.admission refusal)) ∧
      ((∃ fault, unreadyGate.Rejects (submissionTo "/v1/validate/job") () fault) ∨
        ∃ out report causes,
          (unreadyGate.prepare (submissionTo "/v1/validate/job") ()).1.result =
            .ok (out, some report) ∧ report.validation = some causes ∧ causes.list ≠ []) := by
  have registers : Route.ofRequest? (submissionTo "/v1/jobs").method
      (submissionTo "/v1/jobs").uri.path = some .register := by decide +kernel
  have validates : Route.ofRequest? (submissionTo "/v1/validate/job").method
      (submissionTo "/v1/validate/job").uri.path = some .validate := by decide +kernel
  have registered := unreadyGate_meetsBroken registers
  have validated := unreadyGate_meetsBroken validates
  obtain ⟨out, _⟩ := broken_collaborator_keeps_out registers registered
  obtain ⟨_, reported⟩ := broken_collaborator_keeps_out validates validated
  exact ⟨registers, validates, registered, validated, out nofun, reported rfl⟩

end Gateway
end JobGate
