import JobGate.Proofs.CollaboratorFailures
import JobGate.Proofs.DeterminedRuns

/-!
What a dry run says about the real one. The same headers and body are submitted twice, once to be
validated and once to be registered or planned, and the controllers are determined by the payload.
The validated job is registered exactly when nothing was found against it, with the same body and
the same warnings, and what stops the dry run stops the real one with the same answer
(`validation_predicts`). Both runs pass the same stages up to the review, which is the same
(`SubmittedTwice.identifies`, `review_determined`); they part only where validators found causes.
-/
namespace JobGate

variable {σ : Type}

/-- Wherever a request is forwarded to, the host is that of the backend. -/
theorem Uri.forwardTarget_host {backend uri : Uri} {target : Option PathQuery}
    (found : backend.forwardTarget target = .ok uri) :
    uri.scheme = backend.scheme ∧ uri.authority = backend.authority := by
  obtain ⟨path, _, made⟩ := bind_ok found
  unfold ofParts at made
  split at made
  · cases made
  · split at made
    · cases made
    · obtain rfl := Except.ok.inj made
      exact ⟨rfl, rfl⟩

namespace Pipeline

variable {pipeline : Pipeline σ} {payload : Payload} {s : σ}

theorem admission_of_stopped {refusal : Refusal}
    (stopped : (pipeline.review payload s).1.result = .error refusal) (route : Route) :
    pipeline.admission route payload s = .error refusal := by
  cases route <;> simp [admission, enforce_result, stopped, Except.bind, Except.map]

theorem admission_of_clean {review : Review}
    (reviewed : (pipeline.review payload s).1.result = .ok review)
    (clean : review.errors.list = []) (route : Route) :
    pipeline.admission route payload s = .ok review.job := by
  cases route <;>
    simp [admission, enforce_result, reviewed, enforced_of_no_causes clean, Except.bind, Except.map]

theorem admission_of_causes {review : Review} {route : Route}
    (reviewed : (pipeline.review payload s).1.result = .ok review)
    (causes : review.errors.list ≠ []) (decides : route ≠ .validate) :
    pipeline.admission route payload s = .error (.validation review.errors) := by
  have refused : (pipeline.enforce payload s).1.result = .error (.validation review.errors) := by
    rw [enforce_result, reviewed]
    exact enforced_of_causes causes
  cases route with
  | validate => exact absurd rfl decides
  | register => simp [admission, refused, Except.map]
  | plan => simp [admission, refused, Except.map]

end Pipeline

theorem Review.report_eq (route : Route) (review : Review) :
    review.report route =
      ⟨route, review.warnings, if review.errors.list = [] then none else some review.errors⟩ := by
  by_cases clean : review.errors.list = []
  · simp [Review.report, Report.addCauses, Causes.isEmpty, clean]
  · simp [Review.report, Report.addCauses, Causes.isEmpty, clean]

namespace Gateway

/-! ## Forwarding -/

/-- The backend can be asked for the target of the request. -/
def Reaches (gate : Gateway σ) (request : Incoming) : Prop :=
  ∃ uri, gate.backend.forwardTarget request.uri.target? = .ok uri

/-- A backend from the settings can be asked for every target that is not too long. -/
theorem reaches_iff_fits {settings : BackendSettings} {text : String} {gate : Gateway σ}
    {request : Incoming} (set : settings.uri = .ok gate.backend)
    (asked : Uri.parse text = .ok request.uri) :
    gate.Reaches request ↔
      (gate.backend.pathPrefix ++ request.uri.requested.text).utf8ByteSize ≤ Uri.maxLength := by
  constructor
  · rintro ⟨uri, found⟩
    rw [Uri.requested_text]
    exact Uri.fits_of_forwardTarget found
  · intro fits
    exact ⟨_, Uri.forwardTarget_ok set asked fits⟩

/-- The request is sent to the backend, and there is a report for its reply. -/
def Forwards (gate : Gateway σ) (request : Incoming) (s : σ) (out : Request) (report : Report) :
    Prop :=
  (gate.prepare request s).1.result = .ok (out, some report) ∧
    ∃ delivery, (.forward, out, delivery) ∈ (gate.record request s).filterMap Call.sent?

section
variable {gate : Gateway σ} {route : Route} {request other : Incoming} {s t u : σ}
  {submission : Submission} {caller : Caller} {job : Job} {out : Request} {report : Report}

/-- What is prepared for a submission was reviewed, and the report says what the review says. -/
theorem passes_of_prepared
    (classified : Route.ofRequest? request.method request.uri.path = some route)
    (prepared : (gate.prepare request s).1.result = .ok (out, some report)) :
    ∃ submission caller t review, gate.Passes route request s submission caller t review.job ∧
      gate.resubmission request submission review.job = .ok out ∧
      (gate.pipeline.review ⟨submission.job, some caller⟩ t).1.result = .ok review ∧
      report = review.report route := by
  rcases gate.clears_or_stops route request s with ⟨submission, caller, t, job, passes⟩ |
    ⟨fault, stops⟩
  · obtain ⟨stated, events, u, ran, _, review, reviewed, rfl, rfl⟩ := passes.prepare classified
    simp only [ran] at prepared
    obtain ⟨made, resubmitted, same⟩ := map_ok prepared
    simp only [Prod.mk.injEq, Option.some.injEq] at same
    obtain ⟨rfl, rfl⟩ := same
    exact ⟨submission, caller, t, review, passes, resubmitted, reviewed, rfl⟩
  · rw [stops.prepare classified] at prepared
    cases prepared

theorem Passes.prepared {review : Review}
    (passes : gate.Passes route request s submission caller t review.job)
    (classified : Route.ofRequest? request.method request.uri.path = some route)
    (reviewed : (gate.pipeline.review ⟨submission.job, some caller⟩ t).1.result = .ok review) :
    (gate.prepare request s).1.result = (gate.resubmission request submission review.job).map
      fun out => (out, some (review.report route)) := by
  obtain ⟨stated, events, u, prepared, _, again, reviewed', _, rfl⟩ := passes.prepare classified
  obtain rfl : again = review := Except.ok.inj (reviewed'.symm.trans reviewed)
  rw [prepared]

/-- A submission is sent as it is prepared, if the backend is one that can be sent to. -/
theorem forwards_iff (classified : Route.ofRequest? request.method request.uri.path = some route) :
    gate.Forwards request s out report ↔
      (gate.prepare request s).1.result = .ok (out, some report) ∧
        (gate.backend.isAbsolute && gate.backend.scheme == some "http") = true := by
  refine and_congr_right fun prepared => ?_
  obtain ⟨submission, caller, t, review, passes, made, _, _⟩ :=
    passes_of_prepared classified prepared
  obtain ⟨target, _⟩ := resubmission_ok made
  obtain ⟨scheme, authority⟩ := Uri.forwardTarget_host target
  obtain ⟨_, _, delivery, only⟩ := passes.kinds classified made
  -- whether a request is handed over depends on the backend alone
  rw [record_eq_calls, only, Uri.isAbsolute, Uri.isAbsolute, scheme, authority]
  split
  · rename_i reachable
    simp [reachable]
  · rename_i unreachable
    simp [unreachable]

theorem resubmission_iff_reaches (gate : Gateway σ) (request : Incoming) (submission : Submission)
    (job : Job) :
    (∃ out, gate.resubmission request submission job = .ok out) ↔ gate.Reaches request := by
  constructor
  · rintro ⟨out, made⟩
    exact ⟨out.uri, (resubmission_ok made).1⟩
  · rintro ⟨uri, found⟩
    simp [resubmission, outgoing, found]

theorem resubmission_alike {again : Request} (headers : other.headers = request.headers)
    (made : gate.resubmission request submission job = .ok out)
    (remade : gate.resubmission other submission job = .ok again) :
    again.body = out.body ∧ again.headers = out.headers := by
  obtain ⟨_, sealed, _⟩ := resubmission_ok made
  obtain ⟨_, resealed, _⟩ := resubmission_ok remade
  rw [resubmission] at made remade
  obtain ⟨_, _, sent, _⟩ := outgoing_ok made
  obtain ⟨_, _, resent, _⟩ := outgoing_ok remade
  rw [headers] at resealed resent
  exact ⟨resealed.trans sealed.symm, resent.trans sent.symm⟩

/-! ## Submitting twice -/

/-- The same headers and body are submitted from two states, and the identity source says the same
    of the token both times. -/
structure SubmittedTwice (gate : Gateway σ) (request other : Incoming) (s t : σ) : Prop where
  headers : other.headers = request.headers
  body : other.body = request.body
  identity : ∀ source token, gate.LooksUp request.headers source token →
    (source.resolve token s).1 = (source.resolve token t).1

namespace SubmittedTwice

theorem identifies (twice : gate.SubmittedTwice request other s t)
    (identified : gate.Identifies request.headers s caller u) :
    ∃ v, gate.Identifies other.headers t caller v := by
  rw [twice.headers]
  cases identified with
  | unasked idle => exact ⟨t, .unasked idle⟩
  | @answered source token identity _ asked found =>
    have same : (source.resolve token t).1 = .ok identity := by
      rw [← twice.identity source token asked, found]
    exact ⟨_, .answered asked (Prod.ext same rfl)⟩

theorem opens (twice : gate.SubmittedTwice request other s t) {body plain : Bytes}
    (opened : Opens request body plain submission) : Opens other body plain submission where
  read := twice.body ▸ opened.read
  inflated := twice.headers ▸ opened.inflated
  decoded := opened.decoded

/-- What stops a dry run stops the real one. -/
theorem stops (twice : gate.SubmittedTwice request other s t)
    (determined : gate.pipeline.PayloadDetermined) {fault : Fault}
    (stops : gate.Stops .validate request s fault) (route : Route) :
    gate.Stops route other t fault := by
  cases stops with
  | @identity source token failure u asked failed =>
    have same : (source.resolve token t).1 = .error failure := by
      rw [← twice.identity source token asked, failed]
    exact .identity (twice.headers ▸ asked) (Prod.ext same rfl)
  | body identified broken =>
    obtain ⟨v, again⟩ := twice.identifies identified
    exact .body again (twice.body ▸ broken)
  | gzip identified read failed =>
    obtain ⟨v, again⟩ := twice.identifies identified
    exact .gzip again (twice.body ▸ read) (twice.headers ▸ failed)
  | decode identified read inflated failed =>
    obtain ⟨v, again⟩ := twice.identifies identified
    exact .decode again (twice.body ▸ read) (twice.headers ▸ inflated) failed
  | @admission caller u body plain submission refusal identified opened refused =>
    -- a dry run is refused by a mutator only, which refuses the real run as well
    obtain ⟨v, again⟩ := twice.identifies identified
    have stopped := map_error refused
    rw [Pipeline.review_determined determined _ u v] at stopped
    exact .admission again (twice.opens opened) (Pipeline.admission_of_stopped stopped route)

section
variable (twice : gate.SubmittedTwice request other s t)
  (determined : gate.pipeline.PayloadDetermined)
  (validates : Route.ofRequest? request.method request.uri.path = some .validate)
  (forwards : gate.Forwards request s out report)
include twice determined validates forwards

/-- A dry run that is forwarded ends in the review of the real run, which comes to it through the
    same stages. -/
theorem reviews : ∃ submission caller v body plain review,
      gate.resubmission request submission review.job = .ok out ∧
      report = review.report .validate ∧ gate.Identifies other.headers t caller v ∧
      Opens other body plain submission ∧
      (gate.pipeline.review ⟨submission.job, some caller⟩ v).1.result = .ok review := by
  obtain ⟨submission, caller, u, review, passes, made, reviewed, reported⟩ :=
    passes_of_prepared validates forwards.1
  obtain ⟨v, identified⟩ := twice.identifies passes.identified
  obtain ⟨body, plain, opened⟩ := passes.opened
  refine ⟨submission, caller, v, body, plain, review, made, reported, identified,
    twice.opens opened, ?_⟩
  rw [← Pipeline.review_determined determined _ u v, reviewed]

/-- What a dry run reports against the job refuses it. -/
theorem refused (decides : route ≠ .validate) {causes : Causes}
    (found : report.validation = some causes) :
    gate.Stops route other t (.admission (.validation causes)) := by
  obtain ⟨submission, caller, v, body, plain, review, _, rfl, identified, opened, reviewed⟩ :=
    twice.reviews determined validates forwards
  by_cases clean : review.errors.list = []
  · simp [review.report_eq, clean] at found
  · obtain rfl : review.errors = causes := by simpa [review.report_eq, clean] using found
    exact .admission identified opened (Pipeline.admission_of_causes reviewed clean decides)

/-- A dry run that reports nothing against the job lets the real request through, which is then
    prepared from the same submission and job. -/
theorem passed (classified : Route.ofRequest? other.method other.uri.path = some route)
    (none : report.validation = none) :
    ∃ submission job, gate.resubmission request submission job = .ok out ∧
      (gate.prepare other t).1.result = (gate.resubmission other submission job).map
        fun out => (out, some ⟨route, report.warnings, .none⟩) := by
  obtain ⟨submission, caller, v, body, plain, review, made, rfl, identified, opened, reviewed⟩ :=
    twice.reviews determined validates forwards
  have clean : review.errors.list = [] := by
    by_contra some
    simp [review.report_eq, some] at none
  have passes : gate.Passes route other t submission caller v review.job :=
    ⟨identified, ⟨body, plain, opened⟩, Pipeline.admission_of_clean reviewed clean route⟩
  refine ⟨submission, review.job, made, ?_⟩
  rw [passes.prepared classified reviewed, review.report_eq, review.report_eq, if_pos clean]

theorem unsent (classified : Route.ofRequest? other.method other.uri.path = some route)
    (decides : route ≠ .validate) {causes : Causes} (found : report.validation = some causes)
    (out' : Request) (report' : Report) :
    ¬ gate.Forwards other t out' report' := by
  rintro ⟨prepared, _⟩
  rw [(twice.refused determined validates forwards decides found).prepare classified] at prepared
  cases prepared

/-- A job that was validated is sent if nothing was found against it, and there is where to. -/
theorem reached (classified : Route.ofRequest? other.method other.uri.path = some route)
    (decides : route ≠ .validate) :
    (∃ out' report', gate.Forwards other t out' report') ↔
      report.validation = none ∧ gate.Reaches other := by
  rcases found : report.validation with _ | causes
  · obtain ⟨submission, job, _, prepared⟩ :=
      twice.passed determined validates forwards classified found
    obtain ⟨_, reachable⟩ := (forwards_iff validates).mp forwards
    simp only [forwards_iff classified, prepared, true_and, reachable, and_true,
      ← gate.resubmission_iff_reaches other submission job]
    constructor
    · rintro ⟨out', report', made⟩
      obtain ⟨again, remade, _⟩ := map_ok made
      exact ⟨again, remade⟩
    · rintro ⟨out', remade⟩
      exact ⟨out', _, by rw [remade]; rfl⟩
  · constructor
    · rintro ⟨out', report', again⟩
      exact absurd again
        (twice.unsent determined validates forwards classified decides found out' report')
    · rintro ⟨⟨⟩, _⟩

end

end SubmittedTwice

end

/-- What a run that only validates says about one that decides. -/
structure Predicts (gate : Gateway σ) (request other : Incoming) (s t : σ) : Prop where
  /-- The real request is sent if nothing was found against its job, and there is where to. -/
  reached : ∀ out report, gate.Forwards request s out report →
    ((∃ out' report', gate.Forwards other t out' report') ↔
      report.validation = none ∧ gate.Reaches other)
  /-- With a backend from the settings there is where to, unless the target is too long. -/
  forwarded : ∀ settings text, BackendSettings.uri settings = .ok gate.backend →
    Uri.parse text = .ok other.uri → ∀ out report, gate.Forwards request s out report →
      ((∃ out' report', gate.Forwards other t out' report') ↔
        report.validation = none ∧
          (gate.backend.pathPrefix ++ other.uri.requested.text).utf8ByteSize ≤ Uri.maxLength)
  /-- What was found against the job refuses it. -/
  refused : ∀ out report causes, gate.Forwards request s out report →
    report.validation = some causes → gate.Rejects other t (.admission (.validation causes))
  same : ∀ out report out' report', gate.Forwards request s out report →
    gate.Forwards other t out' report' →
      out'.body = out.body ∧ out'.headers = out.headers ∧ report'.warnings = report.warnings
  rejected : ∀ fault, gate.Stops .validate request s fault →
    gate.Rejects request s fault ∧ gate.Rejects other t fault

/-- Validating predicts registering and planning, for controllers that are determined by the
    payload. -/
theorem validation_predicts {gate : Gateway σ} {request other : Incoming} {route : Route} {s t : σ}
    (determined : gate.pipeline.PayloadDetermined)
    (twice : gate.SubmittedTwice request other s t)
    (validates : Route.ofRequest? request.method request.uri.path = some .validate)
    (classified : Route.ofRequest? other.method other.uri.path = some route)
    (decides : route ≠ .validate) : gate.Predicts request other s t := by
  constructor
  case reached => exact fun _ _ forwards => twice.reached determined validates forwards classified decides
  case forwarded =>
    intro settings text set asked out report forwards
    rw [twice.reached determined validates forwards classified decides, reaches_iff_fits set asked]
  case refused =>
    intro out report causes forwards found
    exact rejects_of_prepare_error
      ((twice.refused determined validates forwards decides found).prepare classified)
  case same =>
    intro out report out' report' forwards again
    rcases found : report.validation with _ | causes
    · obtain ⟨submission, job, made, prepared⟩ :=
        twice.passed determined validates forwards classified found
      obtain ⟨_, remade, same⟩ := map_ok (prepared.symm.trans again.1)
      simp only [Prod.mk.injEq, Option.some.injEq] at same
      obtain ⟨rfl, rfl⟩ := same
      obtain ⟨body, headers⟩ := resubmission_alike twice.headers made remade
      exact ⟨body, headers, rfl⟩
    · exact absurd again (twice.unsent determined validates forwards classified decides found _ _)
  case rejected =>
    intro fault stops
    exact ⟨rejects_of_prepare_error (stops.prepare validates),
      rejects_of_prepare_error ((twice.stops determined stops route).prepare classified)⟩

/-- A gate that warns of every job, and counts the jobs. -/
def countingGate : Gateway Nat where
  backend := (warningGate compressedReply).backend
  timeLimit := BackendSettings.default.timeout
  pipeline := ⟨[], [Pipeline.tally "reminder" (.ok ⟨["no owner"], Causes.none⟩)]⟩
  network := ⟨fun _ _ jobs => (.reply compressedReply, jobs)⟩

/-- A job that is validated with a warning is registered with the same warning after others were. -/
theorem validated_job_registered :
    countingGate.pipeline.PayloadDetermined ∧
      countingGate.SubmittedTwice (submissionTo "/v1/validate/job") (submissionTo "/v1/jobs") 0 5 ∧
      Route.ofRequest? (submissionTo "/v1/validate/job").method
        (submissionTo "/v1/validate/job").uri.path = some .validate ∧
      Route.ofRequest? (submissionTo "/v1/jobs").method (submissionTo "/v1/jobs").uri.path =
        some .register ∧
      countingGate.Predicts (submissionTo "/v1/validate/job") (submissionTo "/v1/jobs") 0 5 ∧
      ∃ out report, countingGate.Forwards (submissionTo "/v1/jobs") 5 out report ∧
        report.warnings = ["no owner"] := by
  have determined : countingGate.pipeline.PayloadDetermined := by
    refine ⟨nofun, fun v member payload s t => ?_⟩
    obtain rfl := List.mem_singleton.mp member
    rfl
  have twice : countingGate.SubmittedTwice (submissionTo "/v1/validate/job")
      (submissionTo "/v1/jobs") 0 5 := by
    refine ⟨rfl, rfl, fun source token asked => ?_⟩
    cases asked.2.1
  have validates : Route.ofRequest? (submissionTo "/v1/validate/job").method
      (submissionTo "/v1/validate/job").uri.path = some .validate := by decide +kernel
  have registers : Route.ofRequest? (submissionTo "/v1/jobs").method
      (submissionTo "/v1/jobs").uri.path = some .register := by decide +kernel
  have predicts := validation_predicts determined twice validates registers nofun
  have validated : countingGate.Forwards (submissionTo "/v1/validate/job") 0
      { sentRegistration with uri.target.path := "/v1/validate/job" }
      ⟨.validate, ["no owner"], none⟩ :=
    (forwards_iff validates).mpr ⟨by decide +kernel, by decide +kernel⟩
  have set : BackendSettings.default.uri = .ok countingGate.backend := by decide +kernel
  have asked : Uri.parse "/v1/jobs" = .ok (submissionTo "/v1/jobs").uri := by decide +kernel
  obtain ⟨out, report, registered⟩ :=
    (predicts.forwarded _ _ set asked _ _ validated).mpr ⟨rfl, by decide +kernel⟩
  obtain ⟨_, _, warned⟩ := predicts.same _ _ _ _ validated registered
  exact ⟨determined, twice, validates, registers, predicts, out, report, registered, warned⟩

end Gateway
end JobGate
