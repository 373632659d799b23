import JobGate.Proofs.BackendTarget
import JobGate.Proofs.Envelopes
import JobGate.Proofs.GateCalls
import JobGate.Proofs.GzipMembers
import JobGate.Proofs.PipelineRuns

/-!
What becomes of a request that submits a job. It `Clears` the gate when the caller is known, the
body is read, inflated and decoded, and the pipeline admits the job; else it `Stops` at the first
of these that fails (`clears_or_stops`). A request that stops is not sent but answered with the
failure (`Stops.prepare`, `unsent_of_prepare_error`). One that clears the gate is sent to the
backend once (`Passes.kinds`), with the job that the last mutator left, which is the job that all
validators judged, and otherwise with what was received (`Passes.sentAsJudged`).
-/
namespace JobGate

variable {σ : Type}

/-- What a review leaves to be reported: its warnings, and its errors unless there are none. -/
def Review.report (route : Route) (review : Review) : Report :=
  Report.addCauses review.errors { route, warnings := review.warnings }

namespace Pipeline

/-- What admission comes to: errors of validators refuse a job that is to be registered or planned,
    but not one that is only to be validated. -/
def admission (pipeline : Pipeline σ) (route : Route) (payload : Payload) (s : σ) :
    Except Refusal Job :=
  match route with
  | .register | .plan => (pipeline.enforce payload s).1.result.map (·.job)
  | .validate => (pipeline.review payload s).1.result.map (·.job)

theorem decide_admission (gate : Gateway σ) (route : Route) (payload : Payload) (s : σ) :
    (gate.decide route payload s).1.result.map (·.1) =
      gate.pipeline.admission route payload s := by
  cases route
  · rcases ran : (gate.pipeline.enforce payload s).1.result with refusal | admitted
    · simp [Gateway.decide, admission, ran, Except.map]
    · simp [Gateway.decide, admission, ran, Except.map]
  · rcases ran : (gate.pipeline.enforce payload s).1.result with refusal | admitted
    · simp [Gateway.decide, admission, ran, Except.map]
    · simp [Gateway.decide, admission, ran, Except.map]
  · rcases ran : (gate.pipeline.review payload s).1.result with refusal | review
    · simp [Gateway.decide, admission, ran, Except.map]
    · simp [Gateway.decide, admission, ran, Except.map]

/-- A job that is admitted was reviewed, and the review found no causes. -/
theorem reviewed_of_enforce {pipeline : Pipeline σ} {payload : Payload} {s : σ}
    {admitted : Admitted} (accepted : (pipeline.enforce payload s).1.result = .ok admitted) :
    ∃ review, (pipeline.review payload s).1.result = .ok review ∧ review.errors.list = [] ∧
      admitted = ⟨review.job, review.warnings⟩ := by
  rw [enforce_result] at accepted
  obtain ⟨review, reviewed, clean⟩ := bind_ok accepted
  refine ⟨review, reviewed, ?_⟩
  by_cases fine : review.errors.list = []
  · rw [enforced_of_no_causes fine] at clean
    exact ⟨fine, (Except.ok.inj clean).symm⟩
  · rw [enforced_of_causes fine] at clean
    cases clean

/-- A job that is admitted on some route is the one that a review leaves, and what is reported is
    what the review says. -/
theorem reviewed_of_decide {gate : Gateway σ} {route : Route} {payload : Payload} {s : σ}
    {job : Job} {report : Report}
    (decided : (gate.decide route payload s).1.result = .ok (job, report)) :
    ∃ review, (gate.pipeline.review payload s).1.result = .ok review ∧ review.job = job ∧
      report = review.report route := by
  have enforced (accepted : (gate.pipeline.enforce payload s).1.result.map (fun admitted =>
        (admitted.job, ({ route, warnings := admitted.warnings } : Report))) = .ok (job, report)) :
      ∃ review, (gate.pipeline.review payload s).1.result = .ok review ∧ review.job = job ∧
        report = review.report route := by
    obtain ⟨last, through, same⟩ := map_ok accepted
    obtain ⟨review, reviewed, clean, rfl⟩ := reviewed_of_enforce through
    obtain ⟨rfl, rfl⟩ := Prod.mk.inj same
    exact ⟨review, reviewed, rfl, by simp [Review.report, Report.addCauses, Causes.isEmpty, clean]⟩
  cases route with
  | register => exact enforced decided
  | plan => exact enforced decided
  | validate =>
    obtain ⟨review, reviewed, same⟩ := map_ok decided
    obtain ⟨rfl, rfl⟩ := Prod.mk.inj same
    exact ⟨review, reviewed, rfl, rfl⟩

/-- A review that is not stopped asks every mutator, and every validator about the job that the
    mutators leave. -/
theorem Reference.finished_ok {pipeline : Pipeline σ} {payload : Payload} {s t : σ}
    {mutations : List (MutatorCall σ)} {judgements : List (ValidatorCall σ)} {review : Review}
    (run : Reference pipeline payload s mutations judgements (.ok review) t) :
    review.job = lastJob payload.job mutations ∧ pipeline.EveryMutatorSucceeded mutations ∧
      judgements.map (·.controller) = pipeline.validators ∧
        ∀ call ∈ judgements, call.shown = ⟨review.job, payload.caller⟩ := by
  cases run with
  | finished run all succeeded judged shown played adds =>
    exact ⟨rfl, ⟨all, succeeded⟩, judged, shown⟩

end Pipeline

namespace Gateway

/-! ## Clearing the gate -/

/-- The token is to be looked up: some controller wants that, there is somebody to ask, and the
    request carries one. -/
def LooksUp (gate : Gateway σ) (headers : Headers) (source : IdentitySource σ)
    (token : String) : Prop :=
  gate.pipeline.resolvesToken = true ∧ gate.identity = some source ∧ headers.token? = some token

/-- Who calls is known. -/
inductive Identifies (gate : Gateway σ) (headers : Headers) (s : σ) : Caller → σ → Prop where
  /-- No token is to be looked up. -/
  | unasked (idle : ∀ source token, ¬ gate.LooksUp headers source token) :
      Identifies gate headers s ⟨headers.clientAddress gate.peer, "", none⟩ s
  | answered {source : IdentitySource σ} {token : String} {identity : Identity} {t : σ}
      (asked : gate.LooksUp headers source token)
      (found : source.resolve token s = (.ok identity, t)) :
      Identifies gate headers s
        ⟨headers.clientAddress gate.peer, identity.accessorId, some identity⟩ t

/-- The body of a request is a submission. -/
structure Opens (request : Incoming) (body plain : Bytes) (submission : Submission) : Prop where
  read : request.body = .ok body
  inflated : decodeBody request.headers.declaresGzip body = .ok plain
  decoded : decodeBytes Submission.decoder plain = .ok submission

/-- A request passes every stage, and a job is admitted in place of the submitted one. -/
structure Passes (gate : Gateway σ) (route : Route) (request : Incoming) (s : σ)
    (submission : Submission) (caller : Caller) (t : σ) (job : Job) : Prop where
  identified : gate.Identifies request.headers s caller t
  opened : ∃ body plain, Opens request body plain submission
  admitted : gate.pipeline.admission route ⟨submission.job, some caller⟩ t = .ok job

/-- A request passes every stage. -/
def Clears (gate : Gateway σ) (route : Route) (request : Incoming) (s : σ) : Prop :=
  ∃ submission caller t job, gate.Passes route request s submission caller t job

/-- The first stage that fails, and how; all stages before it are passed. -/
inductive Stops (gate : Gateway σ) (route : Route) (request : Incoming) (s : σ) :
    Fault → Prop where
  | identity {source : IdentitySource σ} {token : String} {failure : Failure} {t : σ}
      (asked : gate.LooksUp request.headers source token)
      (failed : source.resolve token s = (.error failure, t)) :
      Stops gate route request s (.identity failure)
  | body {caller : Caller} {t : σ} {reason : String}
      (identified : gate.Identifies request.headers s caller t)
      (broken : request.body = .error reason) :
      Stops gate route request s (.body reason)
  | gzip {caller : Caller} {t : σ} {body : Bytes} {e : GzipError}
      (identified : gate.Identifies request.headers s caller t)
      (read : request.body = .ok body)
      (failed : decodeBody request.headers.declaresGzip body = .error e) :
      Stops gate route request s (.gzip e)
  | decode {caller : Caller} {t : σ} {body plain : Bytes} {e : DecodeError}
      (identified : gate.Identifies request.headers s caller t)
      (read : request.body = .ok body)
      (inflated : decodeBody request.headers.declaresGzip body = .ok plain)
      (failed : decodeBytes Submission.decoder plain = .error e) :
      Stops gate route request s (.decode e)
  | admission {caller : Caller} {t : σ} {body plain : Bytes} {submission : Submission}
      {refusal : Refusal} (identified : gate.Identifies request.headers s caller t)
      (opened : Opens request body plain submission)
      (refused : gate.pipeline.admission route ⟨submission.job, some caller⟩ t = .error refusal) :
      Stops gate route request s (.admission refusal)

theorem LooksUp.caller {gate : Gateway σ} {headers : Headers} {source : IdentitySource σ}
    {token : String} (asked : gate.LooksUp headers source token) (s : σ) :
    gate.caller headers s =
      match source.resolve token s with
      | (.error failure, t) => (.error (.identity failure), t)
      | (.ok identity, t) =>
        (.ok ⟨headers.clientAddress gate.peer, identity.accessorId, some identity⟩, t) := by
  obtain ⟨wanted, held, carried⟩ := asked
  rcases found : source.resolve token s with ⟨failure | identity, t⟩
  · simp [Gateway.caller, wanted, held, carried, found]
  · simp [Gateway.caller, wanted, held, carried, found]

theorem caller_unasked {gate : Gateway σ} {headers : Headers}
    (idle : ∀ source token, ¬ gate.LooksUp headers source token) (s : σ) :
    gate.caller headers s = (.ok ⟨headers.clientAddress gate.peer, "", none⟩, s) ∧
      gate.callerCalls headers s = [] := by
  by_cases wanted : gate.pipeline.resolvesToken
  · rcases held : gate.identity with _ | source
    · simp [caller, callerCalls, wanted, held]
    · rcases carried : headers.token? with _ | token
      · simp [caller, callerCalls, wanted, held, carried]
      · exact absurd ⟨wanted, held, carried⟩ (idle source token)
  · simp [caller, callerCalls, wanted]

theorem Identifies.caller {gate : Gateway σ} {headers : Headers} {s t : σ} {caller : Caller}
    (identified : gate.Identifies headers s caller t) :
    gate.caller headers s = (.ok caller, t) := by
  cases identified with
  | unasked idle => exact (caller_unasked idle s).1
  | answered asked found => rw [asked.caller, found]

theorem identifies_or_fails (gate : Gateway σ) (headers : Headers) (s : σ) :
    (∃ caller t, gate.Identifies headers s caller t) ∨
      ∃ source token failure t, gate.LooksUp headers source token ∧
        source.resolve token s = (.error failure, t) := by
  by_cases looksUp : ∃ source token, gate.LooksUp headers source token
  · obtain ⟨source, token, asked⟩ := looksUp
    rcases found : source.resolve token s with ⟨failure | identity, t⟩
    · exact .inr ⟨source, token, failure, t, asked, found⟩
    · exact .inl ⟨_, t, .answered asked found⟩
  · exact .inl ⟨_, s, .unasked fun source token asked => looksUp ⟨source, token, asked⟩⟩

/-- A request clears the gate or stops somewhere. -/
theorem clears_or_stops (gate : Gateway σ) (route : Route) (request : Incoming) (s : σ) :
    gate.Clears route request s ∨ ∃ fault, gate.Stops route request s fault := by
  rcases gate.identifies_or_fails request.headers s with ⟨caller, t, identified⟩ |
    ⟨source, token, failure, t, asked, failed⟩
  · rcases read : request.body with reason | body
    · exact .inr ⟨_, .body identified read⟩
    · rcases inflated : decodeBody request.headers.declaresGzip body with e | plain
      · exact .inr ⟨_, .gzip identified read inflated⟩
      · rcases decoded : decodeBytes Submission.decoder plain with e | submission
        · exact .inr ⟨_, .decode identified read inflated decoded⟩
        · have opened : Opens request body plain submission := ⟨read, inflated, decoded⟩
          rcases admitted : gate.pipeline.admission route ⟨submission.job, some caller⟩ t with
            refusal | job
          · exact .inr ⟨_, .admission identified opened admitted⟩
          · exact .inl ⟨submission, caller, t, job, identified, ⟨body, plain, opened⟩, admitted⟩
  · exact .inr ⟨_, .identity asked failed⟩

theorem Opens.openBody {request : Incoming} {body plain : Bytes} {submission : Submission}
    (opened : Opens request body plain submission) :
    Gateway.openBody request.headers body = .ok submission := by
  simp [Gateway.openBody, opened.inflated, opened.decoded]

/-! ## Preparing -/

/-- The request that a submission is sent in once a job is admitted. -/
def resubmission (gate : Gateway σ) (request : Incoming) (submission : Submission) (job : Job) :
    Except Fault Request :=
  let body := sealBody request.headers { submission with job }
  gate.outgoing request (request.headers.announceLength body.length) (.ok body)

section
variable {gate : Gateway σ} {route : Route} {request : Incoming} {s : σ}

theorem Passes.admission {submission : Submission} {caller : Caller} {t : σ} {job : Job}
    (passes : gate.Passes route request s submission caller t job) :
    ∃ body report events u, request.body = .ok body ∧
      gate.admission route request.headers body caller t =
        (⟨.ok (sealBody request.headers { submission with job }, report), events⟩, u) ∧
      gate.admissionCalls request.headers body caller t =
        gate.pipeline.reviewCalls ⟨submission.job, some caller⟩ t ∧
      ∃ review, (gate.pipeline.review ⟨submission.job, some caller⟩ t).1.result = .ok review ∧
        review.job = job ∧ report = review.report route := by
  obtain ⟨_, ⟨body, plain, opened⟩, admitted⟩ := passes
  rw [← Pipeline.decide_admission] at admitted
  rcases ran : gate.decide route ⟨submission.job, some caller⟩ t with ⟨⟨result, events⟩, u⟩
  rw [ran] at admitted
  obtain ⟨⟨last, report⟩, rfl, rfl⟩ := map_ok admitted
  have reviewed := Pipeline.reviewed_of_decide (congrArg (·.1.result) ran)
  exact ⟨body, report, events, u, opened.read, by simp [Gateway.admission, opened.openBody, ran],
    by simp [admissionCalls, opened.openBody], reviewed⟩

/-- The request that a submission which passes every stage is prepared to. -/
theorem Passes.prepare {submission : Submission} {caller : Caller} {t : σ} {job : Job}
    (passes : gate.Passes route request s submission caller t job)
    (classified : Route.ofRequest? request.method request.uri.path = some route) :
    ∃ report events u, gate.prepare request s =
        (⟨(gate.resubmission request submission job).map fun out => (out, some report), events⟩,
          u) ∧
      gate.prepareCalls request s = gate.callerCalls request.headers s ++
        gate.pipeline.reviewCalls ⟨submission.job, some caller⟩ t ∧
      ∃ review, (gate.pipeline.review ⟨submission.job, some caller⟩ t).1.result = .ok review ∧
        review.job = job ∧ report = review.report route := by
  obtain ⟨body, report, events, u, read, admitted, calls, reviewed⟩ := passes.admission
  refine ⟨report, events, u, ?_, ?_, reviewed⟩
  · simp [Gateway.prepare, passes.identified.caller, classified, prepareSubmission, read, admitted,
      resubmission]
  · simp [prepareCalls, passes.identified.caller, classified, submissionCalls, read, calls]

/-- A request that stops is not prepared, and the failure it stops at is the fault. -/
theorem Stops.prepare {fault : Fault} (stops : gate.Stops route request s fault)
    (classified : Route.ofRequest? request.method request.uri.path = some route) :
    (gate.prepare request s).1.result = .error fault := by
  cases stops with
  | identity asked failed =>
    simp [Gateway.prepare, asked.caller, failed]
  | body identified broken =>
    simp [Gateway.prepare, identified.caller, classified, prepareSubmission, broken]
  | gzip identified read failed =>
    simp [Gateway.prepare, identified.caller, classified, prepareSubmission, read,
      Gateway.admission, Gateway.openBody, failed]
  | decode identified read inflated failed =>
    simp [Gateway.prepare, identified.caller, classified, prepareSubmission, read,
      Gateway.admission, Gateway.openBody, inflated, failed]
  | @admission caller t body plain submission refusal identified opened refused =>
    rw [← Pipeline.decide_admission] at refused
    rcases ran : gate.decide route ⟨submission.job, some caller⟩ t with
      ⟨⟨stopped | ⟨job, report⟩, events⟩, u⟩
    · rw [ran] at refused
      obtain rfl : stopped = refusal := by simpa [Except.map] using refused
      simp [Gateway.prepare, identified.caller, classified, prepareSubmission, opened.read,
        Gateway.admission, opened.openBody, ran]
    · rw [ran] at refused
      cases refused

/-- A request that is not prepared is not sent, and is answered with the fault. -/
theorem unsent_of_prepare_error {fault : Fault}
    (failed : (gate.prepare request s).1.result = .error fault) :
    (gate.calls request s).filterMap Call.sent? = [] ∧
      (gate.handle request s).1.1 = fault.reply := by
  rcases ran : gate.prepare request s with ⟨⟨result, events⟩, t⟩
  rw [ran] at failed
  obtain rfl : result = .error fault := failed
  constructor
  · simp [Gateway.calls, ran, (gate.kinds_prepareCalls request s).1]
  · simp [handle, run, answer, ran]

theorem resubmission_ok {submission : Submission} {job : Job} {out : Request}
    (prepared : gate.resubmission request submission job = .ok out) :
    gate.backend.forwardTarget request.uri.target? = .ok out.uri ∧
      out.body = sealBody request.headers { submission with job } ∧ out.bodyFault = none := by
  rcases found : gate.backend.forwardTarget request.uri.target? with e | uri
  · simp [resubmission, outgoing, found] at prepared
  · simp only [resubmission, outgoing, found] at prepared
    obtain rfl := Except.ok.inj prepared
    exact ⟨rfl, rfl, rfl⟩

end

/-! ## Sending -/

/-- The body of a request holds an object with these members, repeated keys included. -/
def Receives (request : Incoming) (pairs : List (String × Json)) : Prop :=
  ∃ body plain, request.body = .ok body ∧
    decodeBody request.headers.declaresGzip body = .ok plain ∧
      decodeBytes Decoder.pairs plain = .ok pairs

theorem Opens.receives {request : Incoming} {body plain : Bytes} {submission : Submission}
    (opened : Opens request body plain submission) :
    ∃ pairs, Receives request pairs ∧
      pairs.filter (·.1 = "Job") = [("Job", submission.job.toJson)] ∧
      Members.Collapse (pairs.filter (·.1 ≠ "Job")) submission.rest := by
  obtain ⟨pairs, decoded, job, rest⟩ := Submission.decodeBytes_submission opened.decoded
  exact ⟨pairs, ⟨body, plain, opened.read, opened.inflated, decoded⟩, job, rest⟩

section
variable {gate : Gateway σ} {route : Route} {request : Incoming} {s t : σ}
  {submission : Submission} {caller : Caller} {job : Job} {out : Request}

/-- The calls for a submission that passes every stage: those of one review, and one request that
    is sent. -/
theorem Passes.calls (passes : gate.Passes route request s submission caller t job)
    (classified : Route.ofRequest? request.method request.uri.path = some route)
    (prepared : gate.resubmission request submission job = .ok out) :
    ∃ u, gate.calls request s = gate.callerCalls request.headers s ++
      gate.pipeline.reviewCalls ⟨submission.job, some caller⟩ t ++
        gate.network.sendCalls .forward out u := by
  obtain ⟨report, events, u, ran, made, _⟩ := passes.prepare classified
  refine ⟨u, ?_⟩
  simp [Gateway.calls, ran, made, prepared, Except.map]

theorem Passes.kinds (passes : gate.Passes route request s submission caller t job)
    (classified : Route.ofRequest? request.method request.uri.path = some route)
    (prepared : gate.resubmission request submission job = .ok out) :
    (gate.calls request s).filterMap Call.mutator? =
        gate.pipeline.mutations ⟨submission.job, some caller⟩ t ∧
      (gate.calls request s).filterMap Call.validator? =
        gate.pipeline.judgements ⟨submission.job, some caller⟩ t ∧
      ∃ delivery, (gate.calls request s).filterMap Call.sent? =
        if out.uri.isAbsolute && out.uri.scheme == some "http" then [(.forward, out, delivery)]
        else [] := by
  obtain ⟨u, calls⟩ := passes.calls classified prepared
  obtain ⟨callerMutators, callerValidators, callerSent, _⟩ :=
    gate.kinds_callerCalls request.headers s
  obtain ⟨reviewMutators, reviewValidators, reviewSent, _⟩ :=
    kinds_reviewCalls gate.pipeline ⟨submission.job, some caller⟩ t
  obtain ⟨sendMutators, sendValidators, sendSent, _⟩ :=
    kinds_sendCalls gate.network .forward out u
  refine ⟨?_, ?_, (gate.network.dispatch .forward out u).1, ?_⟩
  · simp [calls, callerMutators, reviewMutators, sendMutators]
  · simp [calls, callerValidators, reviewValidators, sendValidators]
  · rw [calls, List.filterMap_append, List.filterMap_append, callerSent, reviewSent, sendSent]
    rfl

end

/-- What was sent for a submission is what was judged: an object with the job that the last mutator
    returned, which is the job that every validator was asked about, and with the members that were
    received with the submitted job. -/
structure SentAsJudged (gate : Gateway σ) (request : Incoming) (log : List (Call σ)) (out : Request)
    (pairs : List (String × Json)) (submitted : Job) (rest : Members) : Prop where
  received : Receives request pairs
  job : pairs.filter (·.1 = "Job") = [("Job", submitted.toJson)]
  others : Members.Collapse (pairs.filter (·.1 ≠ "Job")) rest
  mutated : gate.pipeline.EveryMutatorSucceeded (log.filterMap Call.mutator?)
  judged : (log.filterMap Call.validator?).map (·.controller) = gate.pipeline.validators
  shown : ∀ call ∈ log.filterMap Call.validator?,
    call.shown.job = lastJob submitted (log.filterMap Call.mutator?)
  whole : out.bodyFault = none
  body : decodeBody request.headers.declaresGzip out.body =
    .ok (Json.object
      (("Job", (lastJob submitted (log.filterMap Call.mutator?)).toJson) :: rest)).bytes

theorem Passes.sentAsJudged {gate : Gateway σ} {route : Route} {request : Incoming} {s t : σ}
    {submission : Submission} {caller : Caller} {job : Job} {out : Request}
    (passes : gate.Passes route request s submission caller t job)
    (classified : Route.ofRequest? request.method request.uri.path = some route)
    (prepared : gate.resubmission request submission job = .ok out) :
    ∃ pairs, SentAsJudged gate request (gate.calls request s) out pairs submission.job
      submission.rest := by
  obtain ⟨mutations, judgements, _⟩ := passes.kinds classified prepared
  obtain ⟨_, sealed, whole⟩ := resubmission_ok prepared
  obtain ⟨_, _, _, _, _, review, reviewed, rfl, _⟩ := passes.prepare classified
  have run := Pipeline.reference_review gate.pipeline ⟨submission.job, some caller⟩ t
  rw [reviewed] at run
  obtain ⟨last, succeeded, judged, shown⟩ := run.finished_ok
  obtain ⟨body, plain, opened⟩ := passes.opened
  obtain ⟨pairs, received, job, others⟩ := opened.receives
  refine ⟨pairs, received, job, others, ?_, ?_, ?_, whole, ?_⟩
  · rw [mutations]
    exact succeeded
  · rw [judgements]
    exact judged
  · intro call asked
    rw [judgements] at asked
    rw [mutations, shown call asked, last]
  · rw [mutations, sealed, sealBody, decodeBody_encodeBody, Submission.toJson, last]

/-- Whatever the network is handed for a submission is what was judged. -/
theorem sends_what_was_judged {gate : Gateway σ} {route : Route} {request : Incoming} {s : σ}
    (classified : Route.ofRequest? request.method request.uri.path = some route)
    {errand : Errand} {out : Request} {delivery : Delivery}
    (sent : (errand, out, delivery) ∈ (gate.record request s).filterMap Call.sent?) :
    errand = .forward ∧ ∃ pairs submitted rest,
      SentAsJudged gate request (gate.record request s) out pairs submitted rest := by
  rw [record_eq_calls] at sent ⊢
  rcases gate.clears_or_stops route request s with ⟨submission, caller, t, job, passes⟩ |
    ⟨fault, stops⟩
  · rcases prepared : gate.resubmission request submission job with e | made
    -- without a target at the backend nothing is sent, so there is nothing to show
    · have failed : (gate.prepare request s).1.result = .error e := by
        obtain ⟨report, events, u, ran, _⟩ := passes.prepare classified
        simp [ran, prepared, Except.map]
      simp [(unsent_of_prepare_error failed).1] at sent
    · obtain ⟨_, _, delivered, only⟩ := passes.kinds classified prepared
      obtain ⟨pairs, judged⟩ := passes.sentAsJudged classified prepared
      rw [only] at sent
      split at sent
      · obtain ⟨rfl, rfl, rfl⟩ : errand = .forward ∧ out = made ∧ delivery = delivered := by
          simpa using sent
        exact ⟨rfl, pairs, submission.job, submission.rest, judged⟩
      · simp at sent
  · simp [(unsent_of_prepare_error (stops.prepare classified)).1] at sent

/-- Marks jobs as seen. -/
def marker : Mutator Unit where
  name := "marker"
  resolvesToken := true
  mutate payload s := (.ok ⟨payload.job.setMetadata "seen" "yes", true, []⟩, s)

/-- Finds nothing against a job. -/
def lenient : Validator Unit where
  name := "lenient"
  resolvesToken := false
  validate _ s := (.ok Verdict.clean, s)

/-- A gate that marks jobs, knows every caller, and has a backend that does not answer. -/
def markingGate : Gateway Unit where
  backend := ⟨some "http", "localhost:4646", PathQuery.none⟩
  timeLimit := BackendSettings.default.timeout
  pipeline := ⟨[marker], [lenient]⟩
  network := ⟨fun _ _ s => (.silent, s)⟩
  identity := some ⟨fun _ s => (.ok default, s)⟩

/-- A token and a compressed body. -/
def registrationHeaders : Headers :=
  [("x-nomad-token", Bytes.ofAscii "token"), ("content-encoding", Bytes.ofAscii "gzip")]

def registration (body : Except String Bytes) : Incoming where
  method := "PUT"
  uri := ⟨none, "", ⟨"/v1/jobs", none⟩⟩
  headers := registrationHeaders
  body := body

/-- A submission with a key that stands twice. -/
def submittedText : Bytes :=
  Utf8.encode "\x7b\"x\":true,\"Job\":\x7b\"ID\":\"a\"\x7d,\"y\":null,\"x\":false\x7d"

/-- What the marking gate makes of it. -/
def markedText : Bytes :=
  Utf8.encode ("\x7b\"Job\":\x7b\"ID\":\"a\",\"Meta\":\x7b\"seen\":\"yes\"\x7d\x7d," ++
    "\"x\":false,\"y\":null\x7d")

theorem registration_compressed (body : Except String Bytes) :
    (registration body).headers.declaresGzip = true := by
  show registrationHeaders.declaresGzip = true
  decide +kernel

theorem registration_asked (body : Except String Bytes) :
    Uri.parse "/v1/jobs" = .ok (registration body).uri := by
  show Uri.parse "/v1/jobs" = .ok ⟨none, "", ⟨"/v1/jobs", none⟩⟩
  decide +kernel

theorem registration_fits (body : Except String Bytes) :
    (markingGate.backend.pathPrefix ++ (registration body).uri.requested.text).utf8ByteSize ≤
      Uri.maxLength := by
  show (markingGate.backend.pathPrefix ++
    (Uri.requested ⟨none, "", ⟨"/v1/jobs", none⟩⟩).text).utf8ByteSize ≤ Uri.maxLength
  decide +kernel

/-- The sample clears the gate: its key that stands twice counts once, with the last value. -/
theorem registration_passes :
    markingGate.Passes .register (registration (.ok (gzip submittedText))) ()
      ⟨⟨[("ID", .string "a")]⟩, [("x", .bool false), ("y", .null)]⟩ ⟨"", "", some default⟩ ()
      ⟨[("ID", .string "a"), ("Meta", .object [("seen", .string "yes")])]⟩ where
  identified := by
    have asked : markingGate.LooksUp (registration (.ok (gzip submittedText))).headers
        ⟨fun _ s => (.ok default, s)⟩ "token" := ⟨rfl, rfl, by decide +kernel⟩
    exact .answered asked rfl
  opened := by
    refine ⟨gzip submittedText, submittedText, rfl, ?_, by decide +kernel⟩
    rw [registration_compressed]
    exact gunzip_gzip submittedText
  admitted := by decide +kernel

/-- At a backend from the settings an admitted job can be sent wherever the target is not too
    long. -/
theorem resubmission_of_fits {settings : BackendSettings} {text : String} {gate : Gateway σ}
    {request : Incoming} (set : settings.uri = .ok gate.backend)
    (asked : Uri.parse text = .ok request.uri)
    (fits : (gate.backend.pathPrefix ++ request.uri.requested.text).utf8ByteSize ≤ Uri.maxLength)
    (submission : Submission) (job : Job) :
    ∃ out, gate.resubmission request submission job = .ok out ∧
      out.uri = ⟨some "http", gate.backend.authority,
        ⟨gate.backend.pathPrefix ++ request.uri.requested.path, request.uri.requested.query⟩⟩ := by
  obtain ⟨_, http, _⟩ := BackendSettings.uri_ok set
  have found := Uri.forwardTarget_ok set asked fits
  rw [http] at found
  rcases went : gate.resubmission request submission job with e | out
  · simp [resubmission, outgoing, found] at went
  · obtain ⟨target, _, _⟩ := resubmission_ok went
    rw [found] at target
    exact ⟨out, rfl, (Except.ok.inj target).symm⟩

theorem marked_job_sent_as_judged : ∃ out delivery,
    Route.ofRequest? "PUT" "/v1/jobs" = some .register ∧
      (.forward, out, delivery) ∈
        (markingGate.record (registration (.ok (gzip submittedText))) ()).filterMap Call.sent? ∧
      gunzip out.body = .ok markedText ∧ Errand.forward = .forward ∧
      ∃ pairs submitted rest, SentAsJudged markingGate (registration (.ok (gzip submittedText)))
        (markingGate.record (registration (.ok (gzip submittedText))) ()) out pairs submitted
        rest := by
  have set : BackendSettings.default.uri = .ok markingGate.backend := by decide +kernel
  have classified : Route.ofRequest? "PUT" "/v1/jobs" = some .register := by decide +kernel
  obtain ⟨out, prepared, target⟩ :=
    resubmission_of_fits set (registration_asked _) (registration_fits _) _ _
  obtain ⟨_, _, delivery, only⟩ := registration_passes.kinds classified prepared
  have sent : (.forward, out, delivery) ∈
      (markingGate.record (registration (.ok (gzip submittedText))) ()).filterMap Call.sent? := by
    rw [record_eq_calls, only, target]
    simp [Uri.isAbsolute, markingGate]
  obtain ⟨_, sealed, _⟩ := resubmission_ok prepared
  have text : gunzip out.body = .ok markedText := by
    rw [sealed, sealBody, registration_compressed, encodeBody, if_pos rfl, gunzip_gzip]
    exact congrArg Except.ok (by decide +kernel)
  exact ⟨out, delivery, classified, sent, text, sends_what_was_judged classified sent⟩

/-- A request that clears the gate is sent once, to the backend below its path. Any other is not
    sent at all, and is answered with the words for the first stage that failed. No token but that
    of the request is looked up, and that at most once. -/
theorem sent_iff_clears {settings : BackendSettings} {text : String} {gate : Gateway σ}
    {route : Route} {request : Incoming} (set : settings.uri = .ok gate.backend)
    (asked : Uri.parse text = .ok request.uri)
    (fits : (gate.backend.pathPrefix ++ request.uri.requested.text).utf8ByteSize ≤ Uri.maxLength)
    (classified : Route.ofRequest? request.method request.uri.path = some route) (s : σ) :
    gate.watched.handle request (s, []) =
        ((gate.handle request s).1, ((gate.handle request s).2, gate.record request s)) ∧
      (gate.record request s).filterMap Call.lookup? <+: request.headers.token?.toList ∧
      (gate.Clears route request s →
        ∃ out delivery, (gate.record request s).filterMap Call.sent? = [(.forward, out, delivery)] ∧
          out.uri = ⟨some "http", gate.backend.authority,
            ⟨gate.backend.pathPrefix ++ request.uri.requested.path,
              request.uri.requested.query⟩⟩) ∧
      (¬ gate.Clears route request s →
        (gate.record request s).filterMap Call.sent? = [] ∧
          ∃ fault, gate.Stops route request s fault ∧
            (gate.handle request s).1.1 =
              { status := 500, headers := [("content-type", Bytes.ofAscii "text/plain")],
                body := Utf8.encode fault.message }) := by
  rw [record_eq_calls]
  refine ⟨by simpa using gate.handle_watched request s [], gate.lookups_calls request s, ?_, ?_⟩
  · rintro ⟨submission, caller, t, job, passes⟩
    obtain ⟨out, prepared, target⟩ := resubmission_of_fits set asked fits submission job
    obtain ⟨_, _, delivery, only⟩ := passes.kinds classified prepared
    obtain ⟨_, _, host⟩ := BackendSettings.uri_ok set
    refine ⟨out, delivery, ?_, target⟩
    simp [only, target, Uri.isAbsolute, host]
  · intro stuck
    rcases gate.clears_or_stops route request s with clears | ⟨fault, stops⟩
    · exact absurd clears stuck
    · obtain ⟨unsent, answered⟩ := unsent_of_prepare_error (stops.prepare classified)
      have status : fault.status = 500 := by cases stops <;> rfl
      refine ⟨unsent, fault, stops, ?_⟩
      rw [answered, Fault.reply, status]

theorem registration_sent_or_answered :
    BackendSettings.default.uri = .ok markingGate.backend ∧
      Uri.parse "/v1/jobs" = .ok (registration (.ok (gzip submittedText))).uri ∧
      (markingGate.backend.pathPrefix ++
        (registration (.ok (gzip submittedText))).uri.requested.text).utf8ByteSize ≤
          Uri.maxLength ∧
      Route.ofRequest? "PUT" "/v1/jobs" = some .register ∧
      (∃ out delivery, (markingGate.record (registration (.ok (gzip submittedText))) ()).filterMap
        Call.sent? = [(.forward, out, delivery)]) ∧
      (markingGate.record (registration (.error "cut")) ()).filterMap Call.sent? = [] ∧
      (markingGate.handle (registration (.error "cut")) ()).1.1 =
        { status := 500, headers := [("content-type", Bytes.ofAscii "text/plain")],
          body := Utf8.encode "failed to read request body: cut" } := by
  have set : BackendSettings.default.uri = .ok markingGate.backend := by decide +kernel
  have classified : Route.ofRequest? "PUT" "/v1/jobs" = some .register := by decide +kernel
  obtain ⟨_, _, sent, _⟩ := sent_iff_clears set (registration_asked (.ok (gzip submittedText)))
    (registration_fits _) classified ()
  obtain ⟨_, _, _, answered⟩ := sent_iff_clears set (registration_asked (.error "cut"))
    (registration_fits _) classified ()
  obtain ⟨out, delivery, only, _⟩ := sent ⟨_, _, _, _, registration_passes⟩
  have stuck : ¬ markingGate.Clears .register (registration (.error "cut")) () := by
    rintro ⟨submission, caller, t, job, _, ⟨body, plain, opened⟩, _⟩
    cases opened.read
  obtain ⟨unsent, fault, stops, reply⟩ := answered stuck
  refine ⟨set, registration_asked _, registration_fits _, classified, ⟨out, delivery, only⟩,
    unsent, ?_⟩
  rw [reply]
  cases stops with
  | identity asked failed =>
    obtain ⟨_, ⟨⟩, _⟩ := asked
    cases failed
  | body identified broken =>
    cases broken
    rfl
  | gzip identified read failed => cases read
  | decode identified read inflated failed => cases read
  | admission identified opened refused => cases opened.read

end Gateway
end JobGate
