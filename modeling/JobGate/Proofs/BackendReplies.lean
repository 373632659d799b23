import JobGate.Proofs.HeaderEdits
import JobGate.Proofs.SubmissionGate

/-!
What becomes of a request once it is prepared. It is handed to the network, and what comes back
settles its answer: a reply is relayed unless a report is due on it, and then it is amended or the
gate answers itself (`Settles`, `HandsOver.settles`). For a submission the report is what the review
of its job says (`reply_relayed_or_amended`). A failure before the request is handed over is
answered with status 500, any later one with 502 or 504, but for a reply that is not compressed as
its headers say (`tellsSide_iff`).
-/
namespace JobGate

variable {σ : Type}

/-- The review has neither warnings nor errors. -/
def Review.Silent (review : Review) : Prop := review.warnings = [] ∧ review.errors.list = []

theorem Review.isEmpty_report (route : Route) (review : Review) :
    (review.report route).isEmpty = true ↔ review.Silent := by
  by_cases clean : review.errors.list = []
  · simp [Review.report, Report.addCauses, Causes.isEmpty, Report.isEmpty, Review.Silent, clean]
  · simp [Review.report, Report.addCauses, Causes.isEmpty, Report.isEmpty, Review.Silent, clean]

/-- There is something to report, and the reply reports a success. -/
def Report.Due (report : Report) (reply : Reply) : Prop :=
  report.isEmpty = false ∧ isSuccess reply.status = true

/-- The answer is the reply with another text for its body: framed anew, and compressed as it
    was. -/
structure Reply.Rewrites (reply answer : Reply) (text : Bytes) : Prop where
  status : answer.status = reply.status
  whole : answer.complete = true
  others : answer.headers.remove "content-length" = reply.headers.endToEnd.remove "content-length"
  unchunked : answer.headers.all "transfer-encoding" = []
  framed : answer.headers.all "content-length" = [Bytes.ofAscii (toString answer.body.length)]
  coded : answer.headers.declaresGzip = reply.headers.endToEnd.declaresGzip
  body : decodeBody answer.headers.declaresGzip answer.body = .ok text

/-- A reply that arrived whole is not compressed as the headers that are passed on say. -/
def Reply.Garbled (reply : Reply) (e : GzipError) : Prop :=
  reply.complete = true ∧ decodeBody reply.headers.endToEnd.declaresGzip reply.body = .error e

/-- What becomes of a reply that a report is due on. -/
inductive Report.Amends (report : Report) (reply : Reply) : Except Fault Reply → Prop where
  | cut (broken : reply.complete = false) : Amends report reply (.error .replyBody)
  | garbled {e : GzipError} (garbled : reply.Garbled e) : Amends report reply (.error (.gzip e))
  | unfoldable {plain : Bytes} {e : DecodeError} (whole : reply.complete = true)
      (inflated : decodeBody reply.headers.endToEnd.declaresGzip reply.body = .ok plain)
      (failed : report.fold plain = .error e) : Amends report reply (.error (.unfoldable e))
  | folded {plain text : Bytes} {answer : Reply} (whole : reply.complete = true)
      (inflated : decodeBody reply.headers.endToEnd.declaresGzip reply.body = .ok plain)
      (folded : report.fold plain = .ok text) (rewrites : reply.Rewrites answer text) :
      Amends report reply (.ok answer)

/-- Encoding a text and announcing its length is a rewriting. -/
theorem Reply.rewrites_encodeBody {reply : Reply} (whole : reply.complete = true) (text : Bytes) :
    let headers := reply.headers.endToEnd
    let body := encodeBody headers.declaresGzip text
    reply.Rewrites { reply with headers := headers.announceLength body.length, body } text where
  status := rfl
  whole := whole
  others := by
    simp only [Headers.announceLength, Headers.remove_put]
    rw [Headers.remove_of_all_eq_nil (Headers.all_transferEncoding_endToEnd _)]
  unchunked := by simp [Headers.all_announceLength]
  framed := by simp [Headers.all_announceLength]
  coded := Headers.declaresGzip_announceLength _ _
  body := by
    rw [Headers.declaresGzip_announceLength]
    exact decodeBody_encodeBody _ text

theorem Report.amends_amendReply (report : Report) (reply : Reply) :
    report.Amends reply
      (Gateway.amendReply report { reply with headers := reply.headers.endToEnd }) := by
  cases whole : reply.complete with
  | false => simpa [Gateway.amendReply] using Amends.cut whole
  | true =>
    rcases inflated : decodeBody reply.headers.endToEnd.declaresGzip reply.body with e | plain
    · simpa [Gateway.amendReply, inflated] using Amends.garbled ⟨whole, inflated⟩
    · rcases folded : report.fold plain with e | text
      · simpa [Gateway.amendReply, inflated, folded] using
          Amends.unfoldable whole inflated folded
      · simpa [Gateway.amendReply, inflated, folded, whole] using
          Amends.folded whole inflated folded (Reply.rewrites_encodeBody whole text)

theorem Report.Amends.of_garbled {report : Report} {reply : Reply} {result : Except Fault Reply}
    {e : GzipError} (amends : report.Amends reply result) (garbled : reply.Garbled e) :
    result = .error (.gzip e) := by
  obtain ⟨whole, corrupt⟩ := garbled
  cases amends with
  | cut broken => simp [whole] at broken
  | garbled other => rw [Except.error.inj (other.2.symm.trans corrupt)]
  | unfoldable _ inflated _ => simp [corrupt] at inflated
  | folded _ inflated _ _ => simp [corrupt] at inflated

theorem Report.Amends.of_folds {report : Report} {reply : Reply} {result : Except Fault Reply}
    {plain text : Bytes} (amends : report.Amends reply result) (whole : reply.complete = true)
    (inflates : decodeBody reply.headers.endToEnd.declaresGzip reply.body = .ok plain)
    (folds : report.fold plain = .ok text) :
    ∃ answer, result = .ok answer ∧ reply.Rewrites answer text := by
  cases amends with
  | cut broken => simp [whole] at broken
  | garbled garbled => cases inflates.symm.trans garbled.2
  | unfoldable _ inflated failed =>
    obtain rfl := Except.ok.inj (inflated.symm.trans inflates)
    simp [folds] at failed
  | folded _ inflated folded rewrites =>
    obtain rfl := Except.ok.inj (inflated.symm.trans inflates)
    obtain rfl := Except.ok.inj (folded.symm.trans folds)
    exact ⟨_, rfl, rewrites⟩

namespace Gateway

/-- What comes of what the network delivers for a request. -/
inductive Settles (limit : Duration) (report : Option Report) :
    Delivery → Except Fault Reply → Prop where
  | failed (e : TransportError) : Settles limit report (.failed e) (.error (.transport e))
  | silent : Settles limit report .silent (.error (.timeout limit))
  | relayed {reply : Reply} (idle : ∀ owed ∈ report, ¬ owed.Due reply) :
      Settles limit report (.reply reply) (.ok { reply with headers := reply.headers.endToEnd })
  | amended {reply : Reply} {owed : Report} {result : Except Fault Reply} (given : owed ∈ report)
      (due : owed.Due reply) (amends : owed.Amends reply result) :
      Settles limit report (.reply reply) result

theorem settles_finish (limit : Duration) (report : Option Report) (reply : Reply) :
    Settles limit report (.reply reply) (finish report reply) := by
  rcases report with _ | report
  · exact .relayed nofun
  · by_cases due : report.Due reply
    · have amended : finish (some report) reply =
          amendReply report { reply with headers := reply.headers.endToEnd } := by
        simp [finish, due.1, due.2]
      rw [amended]
      exact .amended rfl due (report.amends_amendReply reply)
    · have relayed : finish (some report) reply =
          .ok { reply with headers := reply.headers.endToEnd } := by
        rw [Report.Due] at due
        simpa [finish] using fun some success => absurd ⟨some, success⟩ due
      rw [relayed]
      exact .relayed fun other given => Option.some.inj given ▸ due

/-- The request is prepared and handed to the network, which delivers that for it. -/
def HandsOver (gate : Gateway σ) (request : Incoming) (s : σ) (out : Request)
    (report : Option Report) (delivery : Delivery) : Prop :=
  ∃ events t u, gate.prepare request s = (⟨.ok (out, report), events⟩, t) ∧
    gate.network.send .forward out t = (delivery, u)

section
variable {gate : Gateway σ} {request : Incoming} {s : σ} {out : Request} {report : Option Report}
  {delivery : Delivery}

theorem HandsOver.settles (handed : gate.HandsOver request s out report delivery) :
    ∃ result, Settles gate.timeLimit report delivery result ∧
      (gate.run request s).1.result =
        result.map fun reply => { reply with version := request.version } := by
  obtain ⟨events, t, u, prepared, went⟩ := handed
  cases delivery with
  | failed e => exact ⟨_, .failed e, by simp [run, prepared, forward, went]⟩
  | silent => exact ⟨_, .silent, by simp [run, prepared, forward, went]⟩
  | reply reply =>
    exact ⟨_, settles_finish _ _ reply, by simp [run, prepared, forward, went]⟩

theorem HandsOver.settles_error {fault : Fault}
    (handed : gate.HandsOver request s out report delivery)
    (failed : (gate.run request s).1.result = .error fault) :
    Settles gate.timeLimit report delivery (.error fault) := by
  obtain ⟨other | reply, settles, ran⟩ := handed.settles
  · rw [ran] at failed
    exact Except.error.inj failed ▸ settles
  · rw [ran] at failed
    cases failed

/-- What the network was handed is a prepared request. -/
theorem handsOver_of_sent {errand : Errand}
    (sent : (errand, out, delivery) ∈ (gate.record request s).filterMap Call.sent?) :
    ∃ report, gate.HandsOver request s out report delivery := by
  rw [record_eq_calls] at sent
  rcases prepared : gate.prepare request s with ⟨⟨fault | ⟨made, report⟩, events⟩, t⟩
  · simp [calls, prepared, (gate.kinds_prepareCalls request s).1] at sent
  · obtain ⟨_, _, only, _⟩ := kinds_sendCalls gate.network .forward made t
    simp only [calls, prepared, List.filterMap_append, (gate.kinds_prepareCalls request s).1, only,
      List.nil_append] at sent
    split at sent
    · rename_i absolute
      obtain ⟨rfl, rfl, rfl⟩ : errand = .forward ∧ out = made ∧
          delivery = (gate.network.dispatch .forward made t).1 := by simpa using sent
      refine ⟨report, events, t, (gate.network.dispatch .forward out t).2, prepared, ?_⟩
      simp only [Bool.and_eq_true, beq_iff_eq] at absolute
      simp [Network.send, absolute]
    · simp at sent

end

/-! ## Replies to submissions -/

section
variable {gate : Gateway σ} {route : Route} {request : Incoming} {s : σ} {out : Request}

/-- A submission that is handed over was admitted: it is the one made of the admitted job, and the
    report on it is what the review of the job says. -/
theorem HandsOver.passes {report : Option Report} {delivery : Delivery}
    (handed : gate.HandsOver request s out report delivery)
    (classified : Route.ofRequest? request.method request.uri.path = some route) :
    ∃ submission caller t job review, gate.Passes route request s submission caller t job ∧
      gate.resubmission request submission job = .ok out ∧
      (gate.pipeline.review ⟨submission.job, some caller⟩ t).1.result = .ok review ∧
      report = some (review.report route) := by
  obtain ⟨events, u, v, prepared, _⟩ := handed
  rcases gate.clears_or_stops route request s with ⟨submission, caller, t, job, passes⟩ |
    ⟨fault, stops⟩
  · obtain ⟨stated, _, _, ran, _, review, reviewed, _, rfl⟩ := passes.prepare classified
    simp only [ran, Prod.mk.injEq, Handled.mk.injEq] at prepared
    obtain ⟨made, resubmitted, same⟩ := map_ok prepared.1.1
    obtain ⟨rfl, rfl⟩ := Prod.mk.inj same
    exact ⟨submission, caller, t, job, review, passes, resubmitted, reviewed, rfl⟩
  · have stopped := stops.prepare classified
    simp [prepared] at stopped

/-- A report is due on a successful reply unless the review has nothing to say. -/
theorem due_report_iff (route : Route) (review : Review) (reply : Reply) :
    (review.report route).Due reply ↔ isSuccess reply.status = true ∧ ¬ review.Silent := by
  rw [Report.Due, ← Review.isEmpty_report route, Bool.not_eq_true, and_comm]

/-- The reply to a submission that was sent is relayed if it reports no success or the review of the
    job has nothing to say; else it is amended with what the review says. -/
theorem reply_relayed_or_amended
    (classified : Route.ofRequest? request.method request.uri.path = some route) {reply : Reply}
    (sent : (.forward, out, .reply reply) ∈ (gate.record request s).filterMap Call.sent?) :
    ∃ submission caller t job review, gate.Passes route request s submission caller t job ∧
      (gate.pipeline.review ⟨submission.job, some caller⟩ t).1.result = .ok review ∧
      (isSuccess reply.status = false ∨ review.Silent →
        (gate.handle request s).1.1 =
          { reply with headers := reply.headers.endToEnd, version := request.version }) ∧
      (isSuccess reply.status = true ∧ ¬ review.Silent →
        ∃ result, (review.report route).Amends reply result ∧
          (gate.handle request s).1.1 =
            answer (result.map fun amended => { amended with version := request.version })) := by
  obtain ⟨report, handed⟩ := handsOver_of_sent sent
  obtain ⟨submission, caller, t, job, review, passes, _, reviewed, rfl⟩ := handed.passes classified
  refine ⟨submission, caller, t, job, review, passes, reviewed, ?_⟩
  obtain ⟨result, settles, ran⟩ := handed.settles
  have answered : (gate.handle request s).1.1 =
      answer (result.map fun reply => { reply with version := request.version }) := by
    simp [handle, ran]
  have due := due_report_iff route review reply
  cases settles with
  | relayed idle =>
    have idle : ¬ (isSuccess reply.status = true ∧ ¬ review.Silent) :=
      fun some => idle _ rfl (due.mpr some)
    exact ⟨fun _ => answered, fun some => absurd some idle⟩
  | amended given owed amends =>
    obtain rfl := Option.some.inj given
    obtain ⟨success, some⟩ := due.mp owed
    constructor
    · rintro (failed | silent)
      · simp [success] at failed
      · exact absurd silent some
    · exact fun _ => ⟨result, amends, answered⟩

end

def reminder : Validator Unit where
  name := "reminder"
  resolvesToken := false
  validate _ s := (.ok ⟨["no owner"], Causes.none⟩, s)

/-- A gate that warns of every job, and whose backend gives the same reply to all. -/
def warningGate (reply : Reply) : Gateway Unit where
  backend := ⟨some "http", "localhost:4646", PathQuery.none⟩
  timeLimit := BackendSettings.default.timeout
  pipeline := ⟨[], [reminder]⟩
  network := ⟨fun _ _ s => (.reply reply, s)⟩

theorem review_warningGate (reply : Reply) (payload : Payload) :
    ((warningGate reply).pipeline.review payload ()).1.result =
      .ok ⟨payload.job, ["no owner"], Causes.none⟩ := rfl

def plainRegistration : Incoming where
  method := "PUT"
  uri := ⟨none, "", ⟨"/v1/jobs", none⟩⟩
  headers := []
  body := .ok (Utf8.encode "\x7b\"Job\":\x7b\x7d\x7d")

def sentRegistration : Request where
  method := "PUT"
  uri := ⟨some "http", "localhost:4646", ⟨"/v1/jobs", none⟩⟩
  headers := [("content-length", Bytes.ofAscii "10")]
  body := Utf8.encode "\x7b\"Job\":\x7b\x7d\x7d"

def repliedText : Bytes := Utf8.encode "\x7b\"JobModifyIndex\":7\x7d"

/-- A compressed reply with a header for one connection. -/
def compressedReply : Reply where
  status := 200
  headers := [("connection", Bytes.ofAscii "close, X-Hop"), ("x-hop", Bytes.ofAscii "1"),
    ("content-encoding", Bytes.ofAscii "gzip")]
  body := gzip repliedText

def warnedText : Bytes :=
  Utf8.encode "\x7b\"Warnings\":\"1 warning:\\n\\n* no owner\",\"JobModifyIndex\":7\x7d"

theorem warning_folded_into_reply :
    Route.ofRequest? plainRegistration.method plainRegistration.uri.path = some .register ∧
      (.forward, sentRegistration, .reply compressedReply) ∈
        ((warningGate compressedReply).record plainRegistration ()).filterMap Call.sent? ∧
      ∃ amended, compressedReply.Rewrites amended warnedText ∧
        ((warningGate compressedReply).handle plainRegistration ()).1.1 =
          { amended with version := .http11 } := by
  have classified : Route.ofRequest? plainRegistration.method plainRegistration.uri.path =
      some .register := by decide +kernel
  have sent : (.forward, sentRegistration, .reply compressedReply) ∈
      ((warningGate compressedReply).record plainRegistration ()).filterMap Call.sent? := by
    decide +kernel
  refine ⟨classified, sent, ?_⟩
  obtain ⟨submission, caller, t, job, review, _, reviewed, _, amended⟩ :=
    reply_relayed_or_amended classified sent
  rw [review_warningGate] at reviewed
  obtain rfl := Except.ok.inj reviewed
  obtain ⟨result, amends, answered⟩ := amended ⟨rfl, by simp [Review.Silent]⟩
  have compressed : compressedReply.headers.endToEnd.declaresGzip = true := by decide +kernel
  have inflates : decodeBody compressedReply.headers.endToEnd.declaresGzip compressedReply.body =
      .ok repliedText := by
    rw [compressed]
    exact gunzip_gzip repliedText
  have folds : Report.fold ⟨.register, ["no owner"], none⟩ repliedText = .ok warnedText := by
    decide +kernel
  obtain ⟨folded, rfl, rewrites⟩ := amends.of_folds rfl inflates folds
  exact ⟨folded, rewrites, answered⟩

/-! ## Sides of a failure -/

/-- The request fails before it is handed over. -/
def FailsEarly (gate : Gateway σ) (request : Incoming) (s : σ) (fault : Fault) : Prop :=
  (gate.prepare request s).1.result = .error fault

/-- The request is handed over, and fails yet. -/
def FailsLate (gate : Gateway σ) (request : Incoming) (s : σ) (fault : Fault) : Prop :=
  (∃ out report delivery, gate.HandsOver request s out report delivery) ∧
    (gate.run request s).1.result = .error fault

/-- What the gate answers itself tells by its status on which side of sending the request failed. -/
structure TellsSide (gate : Gateway σ) (request : Incoming) (s : σ) : Prop where
  early : ∀ fault, gate.FailsEarly request s fault → fault.status = 500
  late : ∀ fault, gate.FailsLate request s fault → fault.status = 502 ∨ fault.status = 504
  unsent : ∀ fault, (gate.run request s).1.result = .error fault → fault.status = 500 →
    (gate.record request s).filterMap Call.sent? = []

/-- The backend gives a reply that a report is due on and that is garbled. -/
def MeetsGarbled (gate : Gateway σ) (request : Incoming) (s : σ) : Prop :=
  ∃ out report reply e, gate.HandsOver request s out (some report) (.reply reply) ∧
    report.Due reply ∧ reply.Garbled e

section
variable {gate : Gateway σ} {request : Incoming} {s : σ} {fault : Fault}

theorem fails_of_run (failed : (gate.run request s).1.result = .error fault) :
    gate.FailsEarly request s fault ∨ gate.FailsLate request s fault := by
  rcases prepared : gate.prepare request s with ⟨⟨other | ⟨out, report⟩, events⟩, t⟩
  · obtain rfl : other = fault := by simpa [run, prepared] using failed
    exact .inl (by rw [FailsEarly, prepared])
  · rcases went : gate.network.send .forward out t with ⟨delivery, u⟩
    exact .inr ⟨⟨out, report, delivery, events, t, u, prepared, went⟩, failed⟩

theorem outgoing_error {headers : Headers} {body : Except String Bytes}
    (failed : gate.outgoing request headers body = .error fault) : ∃ e, fault = .target e := by
  rcases found : gate.backend.forwardTarget request.uri.target? with e | uri
  · simp only [outgoing, found] at failed
    exact ⟨e, (Except.error.inj failed).symm⟩
  · simp [outgoing, found] at failed

/-- No failure before sending is answered as one of the backend. -/
theorem FailsEarly.status (early : gate.FailsEarly request s fault) : fault.status = 500 := by
  rw [FailsEarly] at early
  rcases classified : Route.ofRequest? request.method request.uri.path with _ | route
  · rcases gate.identifies_or_fails request.headers s with ⟨caller, t, identified⟩ |
      ⟨source, token, failure, t, asked, failed⟩
    · simp only [prepare, identified.caller, classified] at early
      obtain ⟨e, rfl⟩ := outgoing_error (map_error early)
      rfl
    · simp only [prepare, asked.caller, failed] at early
      obtain rfl := Except.error.inj early
      rfl
  · rcases gate.clears_or_stops route request s with ⟨submission, caller, t, job, passes⟩ |
      ⟨other, stops⟩
    · obtain ⟨report, events, u, prepared, _⟩ := passes.prepare classified
      simp only [prepared, resubmission] at early
      obtain ⟨e, rfl⟩ := outgoing_error (map_error early)
      rfl
    · obtain rfl : other = fault := Except.error.inj ((stops.prepare classified).symm.trans early)
      cases stops <;> rfl

theorem FailsLate.status (late : gate.FailsLate request s fault) :
    (fault.status = 502 ∨ fault.status = 504) ∨
      fault.status = 500 ∧ gate.MeetsGarbled request s := by
  obtain ⟨⟨out, report, delivery, handed⟩, failed⟩ := late
  have settles := handed.settles_error failed
  cases settles with
  | failed e => exact .inl (.inl rfl)
  | silent => exact .inl (.inr rfl)
  | amended given due amends =>
    cases amends with
    | cut broken => exact .inl (.inl rfl)
    | unfoldable whole inflated failed => exact .inl (.inl rfl)
    | garbled garbled =>
      obtain rfl := given
      exact .inr ⟨rfl, out, _, _, _, handed, due, garbled⟩

theorem MeetsGarbled.failsLate (meets : gate.MeetsGarbled request s) :
    ∃ e, gate.FailsLate request s (.gzip e) := by
  obtain ⟨out, report, reply, e, handed, due, garbled⟩ := meets
  obtain ⟨result, settles, ran⟩ := handed.settles
  refine ⟨e, ⟨out, some report, .reply reply, handed⟩, ?_⟩
  cases settles with
  | relayed idle => exact absurd due (idle report rfl)
  | amended given _ amends =>
    obtain rfl := Option.some.inj given
    rw [ran, amends.of_garbled garbled]
    rfl

theorem answer_of_run (failed : (gate.run request s).1.result = .error fault) :
    (gate.handle request s).1.1 = fault.reply := by
  simp [handle, failed, answer]

end

/-- The status of an answer that the gate gives itself tells on which side of sending the request
    failed, unless the backend gives a garbled reply: then it is that of a request that was not
    sent. -/
theorem tellsSide_iff (gate : Gateway σ) (request : Incoming) (s : σ) :
    (gate.TellsSide request s ↔ ¬ gate.MeetsGarbled request s) ∧
      ∀ fault, (gate.run request s).1.result = .error fault →
        (gate.handle request s).1.1 = fault.reply ∧
          (gate.FailsEarly request s fault ∧ fault.status = 500 ∧
              (gate.record request s).filterMap Call.sent? = [] ∨
            ∃ out report delivery, gate.HandsOver request s out report delivery ∧
              Settles gate.timeLimit report delivery (.error fault) ∧
              ((fault.status = 502 ∨ fault.status = 504) ∨
                fault.status = 500 ∧ gate.MeetsGarbled request s)) := by
  have unsent {fault : Fault} (early : gate.FailsEarly request s fault) :
      (gate.record request s).filterMap Call.sent? = [] := by
    rw [record_eq_calls]
    exact (unsent_of_prepare_error early).1
  refine ⟨⟨?_, ?_⟩, ?_⟩
  · intro tells meets
    obtain ⟨e, late⟩ := meets.failsLate
    rcases tells.late _ late with status | status <;> cases status
  · intro intact
    have later {fault : Fault} (late : gate.FailsLate request s fault) :
        fault.status = 502 ∨ fault.status = 504 := by
      rcases late.status with status | ⟨_, meets⟩
      · exact status
      · exact absurd meets intact
    refine ⟨fun _ early => early.status, fun _ late => later late, fun fault failed status => ?_⟩
    rcases fails_of_run failed with early | late
    · exact unsent early
    · have := later late
      omega
  · intro fault failed
    refine ⟨answer_of_run failed, ?_⟩
    rcases fails_of_run failed with early | late
    · exact .inl ⟨early, early.status, unsent early⟩
    · obtain ⟨out, report, delivery, handed⟩ := late.1
      exact .inr ⟨out, report, delivery, handed, handed.settles_error failed, late.status⟩

/-- A reply that is not compressed as it says. -/
def garbledReply : Reply where
  status := 200
  headers := [("content-encoding", Bytes.ofAscii "gzip")]
  body := Bytes.ofAscii "not gzip at all"

theorem garbled_reply_answered_as_unsent :
    ((warningGate garbledReply).record plainRegistration ()).filterMap Call.sent? =
        [(.forward, sentRegistration, .reply garbledReply)] ∧
      ((warningGate garbledReply).handle plainRegistration ()).1.1.status = 500 ∧
      ¬ (warningGate garbledReply).TellsSide plainRegistration () := by
  have sent : ((warningGate garbledReply).record plainRegistration ()).filterMap Call.sent? =
      [(.forward, sentRegistration, .reply garbledReply)] := by decide +kernel
  have failed : ((warningGate garbledReply).run plainRegistration ()).1.result =
      .error (.gzip .badHeader) := by decide +kernel
  refine ⟨sent, by rw [answer_of_run failed]; rfl, fun tells => ?_⟩
  simp [tells.unsent _ failed rfl] at sent

end Gateway
end JobGate
