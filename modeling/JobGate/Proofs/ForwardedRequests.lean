import JobGate.Proofs.BackendReplies

/-!
What the backend is handed. A request that submits no job is passed on as it was received, but for
the host, the headers that concern one connection, and the chain of addresses; nobody is asked about
it, and its reply is relayed (`unrecognised_passed_through`). A submission is compressed as its
headers say, unless the headers that it came with name the one that says so as concerning the
connection only: then that header is dropped and the body stays compressed
(`selfDescribing_iff_kept`).
-/
namespace JobGate

variable {σ : Type}

namespace Headers

/-- The names of the headers that are not passed on: the host, and what concerns one connection
    only. -/
def localNames (headers : Headers) : List String :=
  "host" :: (headers.connectionNames ++ connectionHeaders)

/-- A body is compressed as the headers say, and holds a text. -/
def Carries (headers : Headers) (body text : Bytes) : Prop :=
  decodeBody headers.declaresGzip body = .ok text

/-- Without a header that says so, a compressed body does not hold what was compressed: read as it
    stands it is longer. -/
theorem not_carries_gzip {headers : Headers} (unmarked : headers.declaresGzip = false)
    (text : Bytes) : ¬ headers.Carries (gzip text) text := by
  intro carries
  rw [Carries, unmarked] at carries
  have longer := length_lt_gzip text
  rw [Except.ok.inj carries] at longer
  exact absurd longer (Nat.lt_irrefl _)

end Headers

/-- The body of a request that is sent, or why it breaks off. -/
def Request.content (out : Request) : Except String Bytes :=
  match out.bodyFault with
  | none => .ok out.body
  | some reason => .error reason

/-- The request is the one received, passed on by a gate with that peer. -/
structure Incoming.PassedAs (request : Incoming) (peer : Option SocketAddress) (out : Request) :
    Prop where
  method : out.method = request.method
  content : out.content = request.body
  headers : ∀ name, name ≠ forwardingHeader ∨ peer = none →
    out.headers.all name =
      if name ∈ request.headers.localNames then [] else request.headers.all name
  chain : ∀ address ∈ peer, out.headers.all forwardingHeader =
    [Bytes.ofAscii (request.headers.endToEnd.extendedChain address.host.text)]

/-- The answer is the reply received, passed on to the caller. -/
structure Reply.PassedAs (reply answer : Reply) : Prop where
  status : answer.status = reply.status
  body : answer.body = reply.body
  complete : answer.complete = reply.complete
  headers : ∀ name, answer.headers.all name =
    if name ∈ reply.headers.connectionNames ++ connectionHeaders then [] else reply.headers.all name

namespace Gateway

theorem all_forwardedHeaders {peer : Option SocketAddress} {name : String}
    (other : name ≠ forwardingHeader ∨ peer = none) (headers : Headers) :
    (forwardedHeaders peer headers).all name =
      if name ∈ headers.localNames then [] else headers.all name := by
  have stripped : (headers.endToEnd.remove "host").all name =
      if name ∈ headers.localNames then [] else headers.all name := by
    by_cases host : name = "host"
    · simp [host, Headers.localNames]
    · simp [host, Headers.localNames, Headers.all_endToEnd]
  cases peer with
  | none => exact stripped
  | some address =>
    have other : name ≠ forwardingHeader := other.resolve_right nofun
    simpa [forwardedHeaders, Headers.all_addHop, other] using stripped

theorem all_forwardedHeaders_chain (address : SocketAddress) (headers : Headers) :
    (forwardedHeaders (some address) headers).all forwardingHeader =
      [Bytes.ofAscii (headers.endToEnd.extendedChain address.host.text)] := by
  have line : (headers.endToEnd.remove "host").firstText? forwardingHeader =
      headers.endToEnd.firstText? forwardingHeader :=
    Headers.firstText?_congr (by simp [forwardingHeader])
  simp [forwardedHeaders, Headers.all_addHop, Headers.extendedChain, line]

/-- Headers that are passed on say how the body is compressed as before, unless that header is
    named as one that concerns the connection only. -/
theorem declaresGzip_forwardedHeaders (peer : Option SocketAddress) (headers : Headers) :
    (forwardedHeaders peer headers).declaresGzip =
      (headers.declaresGzip && !headers.connectionNames.contains "content-encoding") := by
  have coding : (forwardedHeaders peer headers).all "content-encoding" =
      if "content-encoding" ∈ headers.localNames then [] else headers.all "content-encoding" :=
    all_forwardedHeaders (.inl (by decide)) headers
  by_cases named : "content-encoding" ∈ headers.connectionNames
  · have none : (forwardedHeaders peer headers).all "content-encoding" = [] := by
      simp [coding, Headers.localNames, named]
    simp [Headers.declaresGzip_eq_false none, named]
  · have same : (forwardedHeaders peer headers).all "content-encoding" =
        headers.all "content-encoding" := by
      simp [coding, Headers.localNames, named, connectionHeaders]
    simp [Headers.declaresGzip_congr same, named]

/-- A request that can be sent has the target, the method and the body that it is made of. -/
theorem outgoing_ok {gate : Gateway σ} {request : Incoming} {headers : Headers}
    {body : Except String Bytes} {out : Request}
    (made : gate.outgoing request headers body = .ok out) :
    gate.backend.forwardTarget request.uri.target? = .ok out.uri ∧ out.method = request.method ∧
      out.headers = forwardedHeaders gate.peer headers ∧ out.content = body := by
  rcases found : gate.backend.forwardTarget request.uri.target? with e | uri
  · simp [outgoing, found] at made
  · simp only [outgoing, found] at made
    obtain rfl := Except.ok.inj made
    cases body with
    | ok body => exact ⟨rfl, rfl, rfl, rfl⟩
    | error reason => exact ⟨rfl, rfl, rfl, rfl⟩

/-- What is sent is made of the headers received, framed anew if the request submits a job. -/
theorem outgoing_of_handsOver {gate : Gateway σ} {request : Incoming} {s : σ} {out : Request}
    {report : Option Report} {delivery : Delivery}
    (handed : gate.HandsOver request s out report delivery) :
    ∃ headers body, gate.outgoing request headers body = .ok out ∧
      (headers = request.headers ∨ ∃ length, headers = request.headers.announceLength length) := by
  rcases classified : Route.ofRequest? request.method request.uri.path with _ | route
  · obtain ⟨events, t, u, prepared, _⟩ := handed
    rcases found : gate.caller request.headers s with ⟨fault | caller, v⟩
    · simp [prepare, found] at prepared
    · simp only [prepare, found, classified, Prod.mk.injEq, Handled.mk.injEq] at prepared
      obtain ⟨made, outgoing, same⟩ := map_ok prepared.1.1
      obtain rfl := (Prod.mk.inj same).1
      exact ⟨_, _, outgoing, .inl rfl⟩
  · obtain ⟨submission, _, _, job, _, _, resubmitted, _⟩ := handed.passes classified
    rw [resubmission] at resubmitted
    exact ⟨_, _, resubmitted, .inr ⟨_, rfl⟩⟩

/-! ## Requests that submit no job -/

section
variable {gate : Gateway σ} {request : Incoming} {s t : σ} {caller : Caller} {out : Request}

theorem passedAs_outgoing
    (made : gate.outgoing request request.headers request.body = .ok out) :
    request.PassedAs gate.peer out := by
  obtain ⟨_, method, headers, content⟩ := outgoing_ok made
  refine ⟨method, content, fun name other => ?_, fun address known => ?_⟩
  · rw [headers, all_forwardedHeaders other]
  · rw [headers, known, all_forwardedHeaders_chain]

theorem prepare_unrecognised
    (unrecognised : Route.ofRequest? request.method request.uri.path = none)
    (identified : gate.Identifies request.headers s caller t) :
    gate.prepare request s =
      (⟨(gate.outgoing request request.headers request.body).map fun out => (out, none), []⟩,
        t) := by
  simp [prepare, identified.caller, unrecognised]

/-- The calls for a request that submits no job: those to find out who calls, and the one that
    sends it. -/
theorem calls_unrecognised
    (unrecognised : Route.ofRequest? request.method request.uri.path = none)
    (identified : gate.Identifies request.headers s caller t) :
    gate.calls request s = gate.callerCalls request.headers s ++
      match gate.outgoing request request.headers request.body with
      | .error _ => []
      | .ok out => gate.network.sendCalls .forward out t := by
  rcases made : gate.outgoing request request.headers request.body with e | out
  · simp [calls, prepareCalls, prepare_unrecognised unrecognised identified, identified.caller,
      unrecognised, made, Except.map]
  · simp [calls, prepareCalls, prepare_unrecognised unrecognised identified, identified.caller,
      unrecognised, made, Except.map]

/-- No controller is asked about a request that submits no job, and nothing is sent for it but what
    was received. -/
theorem kinds_unrecognised
    (unrecognised : Route.ofRequest? request.method request.uri.path = none)
    (identified : gate.Identifies request.headers s caller t) :
    (gate.calls request s).filterMap Call.mutator? = [] ∧
      (gate.calls request s).filterMap Call.validator? = [] ∧
      (gate.calls request s).filterMap Call.sent? =
        match gate.outgoing request request.headers request.body with
        | .error _ => []
        | .ok out =>
          if out.uri.isAbsolute && out.uri.scheme == some "http" then
            [(.forward, out, (gate.network.dispatch .forward out t).1)] else [] := by
  obtain ⟨mutators, validators, sent, _⟩ := gate.kinds_callerCalls request.headers s
  rw [calls_unrecognised unrecognised identified]
  rcases made : gate.outgoing request request.headers request.body with e | out
  · simp [mutators, validators, sent]
  · obtain ⟨noMutators, noValidators, only, _⟩ := kinds_sendCalls gate.network .forward out t
    simp [mutators, validators, sent, noMutators, noValidators, only]

/-- The reply to a request that submits no job is passed on. -/
theorem passedAs_handle
    (unrecognised : Route.ofRequest? request.method request.uri.path = none)
    (identified : gate.Identifies request.headers s caller t) {errand : Errand} {reply : Reply}
    (sent : (errand, out, .reply reply) ∈ (gate.record request s).filterMap Call.sent?) :
    reply.PassedAs (gate.handle request s).1.1 := by
  obtain ⟨report, handed⟩ := handsOver_of_sent sent
  obtain ⟨result, settles, ran⟩ := handed.settles
  obtain ⟨events, u, v, prepared, _⟩ := handed
  rw [prepare_unrecognised unrecognised identified] at prepared
  simp only [Prod.mk.injEq, Handled.mk.injEq] at prepared
  obtain ⟨_, _, same⟩ := map_ok prepared.1.1
  obtain rfl : none = report := (Prod.mk.inj same).2
  cases settles with
  | relayed idle =>
    have answered : (gate.handle request s).1.1 =
        { reply with headers := reply.headers.endToEnd, version := request.version } := by
      simp [handle, ran, Except.map, answer]
    rw [answered]
    exact ⟨rfl, rfl, rfl, fun name => Headers.all_endToEnd name reply.headers⟩
  | amended given _ _ => cases given

end

/-- A request that submits no job is passed on as it was received, to the backend below its path,
    unless its target is too long for a URI. No controller is asked about it, nothing else is sent,
    and the backend's reply is passed on. -/
theorem unrecognised_passed_through {settings : BackendSettings} {text : String}
    {gate : Gateway σ} {request : Incoming} {caller : Caller} {s t : σ}
    (set : settings.uri = .ok gate.backend) (asked : Uri.parse text = .ok request.uri)
    (unrecognised : Route.ofRequest? request.method request.uri.path = none)
    (identified : gate.Identifies request.headers s caller t) :
    (gate.record request s).filterMap Call.mutator? = [] ∧
      (gate.record request s).filterMap Call.validator? = [] ∧
      (∀ errand out delivery,
        (errand, out, delivery) ∈ (gate.record request s).filterMap Call.sent? →
          errand = .forward ∧ request.PassedAs gate.peer out ∧
            out.uri = ⟨some "http", gate.backend.authority,
              ⟨gate.backend.pathPrefix ++ request.uri.requested.path,
                request.uri.requested.query⟩⟩ ∧
            ∀ reply, delivery = .reply reply → reply.PassedAs (gate.handle request s).1.1) ∧
      ((gate.backend.pathPrefix ++ request.uri.requested.text).utf8ByteSize ≤ Uri.maxLength →
        ∃ out delivery, (gate.record request s).filterMap Call.sent? =
          [(.forward, out, delivery)]) := by
  obtain ⟨mutators, validators, only⟩ := kinds_unrecognised unrecognised identified
  refine ⟨by rw [record_eq_calls, mutators], by rw [record_eq_calls, validators], ?_, ?_⟩
  · intro errand out delivery sent
    have relayed (reply : Reply) (given : delivery = .reply reply) :
        reply.PassedAs (gate.handle request s).1.1 :=
      passedAs_handle unrecognised identified (given ▸ sent)
    rw [record_eq_calls, only] at sent
    rcases made : gate.outgoing request request.headers request.body with e | prepared
    · simp [made] at sent
    · simp only [made] at sent
      split at sent
      · obtain ⟨rfl, rfl, _⟩ : errand = .forward ∧ out = prepared ∧ _ := by simpa using sent
        obtain ⟨found, _⟩ := outgoing_ok made
        exact ⟨rfl, passedAs_outgoing made, Uri.forwardTarget_eq set asked found, relayed⟩
      · simp at sent
  · intro fits
    obtain ⟨_, http, host⟩ := BackendSettings.uri_ok set
    have found := Uri.forwardTarget_ok set asked fits
    rcases made : gate.outgoing request request.headers request.body with e | out
    · simp [outgoing, found] at made
    · obtain ⟨same, _⟩ := outgoing_ok made
      have target := Except.ok.inj (same.symm.trans found)
      refine ⟨out, (gate.network.dispatch .forward out t).1, ?_⟩
      rw [record_eq_calls, only]
      simp only [made]
      rw [if_pos (by simp [target, Uri.isAbsolute, http, host])]

/-- The gate that warns of every job, at one end of a connection. -/
def connectedGate : Gateway Unit :=
  { warningGate compressedReply with peer := some ⟨.v4 10 0 0 9, 4000, 0⟩ }

/-- A request that lists jobs, with a repeated header and one for the connection only. -/
def listing : Incoming where
  method := "GET"
  uri := ⟨none, "", ⟨"/v1/jobs", some "namespace=web"⟩⟩
  headers := [("host", Bytes.ofAscii "gate"), ("accept", Bytes.ofAscii "text/html"),
    ("connection", Bytes.ofAscii "X-Hop"), ("x-hop", Bytes.ofAscii "1"),
    ("x-forwarded-for", Bytes.ofAscii "192.0.2.1"), ("accept", Bytes.ofAscii "*/*")]
  body := .ok (Bytes.ofAscii "any")

def sentListing : Request where
  method := "GET"
  uri := ⟨some "http", "localhost:4646", ⟨"/v1/jobs", some "namespace=web"⟩⟩
  headers := [("accept", Bytes.ofAscii "text/html"), ("accept", Bytes.ofAscii "*/*"),
    ("x-forwarded-for", Bytes.ofAscii "192.0.2.1, 10.0.0.9")]
  body := Bytes.ofAscii "any"

theorem listing_passed_through :
    BackendSettings.default.uri = .ok connectedGate.backend ∧
      Uri.parse "/v1/jobs?namespace=web" = .ok listing.uri ∧
      Route.ofRequest? listing.method listing.uri.path = none ∧
      (connectedGate.record listing ()).filterMap Call.sent? =
        [(.forward, sentListing, .reply compressedReply)] ∧
      listing.PassedAs connectedGate.peer sentListing ∧
      compressedReply.PassedAs (connectedGate.handle listing ()).1.1 := by
  have set : BackendSettings.default.uri = .ok connectedGate.backend := by decide +kernel
  have asked : Uri.parse "/v1/jobs?namespace=web" = .ok listing.uri := by decide +kernel
  have unrecognised : Route.ofRequest? listing.method listing.uri.path = none := by decide +kernel
  have identified : connectedGate.Identifies listing.headers () _ () :=
    .unasked fun source token asked => by cases asked.2.1
  have sent : (connectedGate.record listing ()).filterMap Call.sent? =
      [(.forward, sentListing, .reply compressedReply)] := by decide +kernel
  obtain ⟨_, _, passed, _⟩ := unrecognised_passed_through set asked unrecognised identified
  obtain ⟨_, same, _, relayed⟩ :=
    passed .forward sentListing (.reply compressedReply) (by simp [sent])
  exact ⟨set, asked, unrecognised, sent, same, relayed compressedReply rfl⟩

/-! ## Submissions -/

/-- The text of the submission that was judged: the job that the last mutator left, with the members
    that came with the submitted one. -/
def judgedText (log : List (Call σ)) (submitted : Job) (rest : Members) : Bytes :=
  (Json.object (("Job", (lastJob submitted (log.filterMap Call.mutator?)).toJson) :: rest)).bytes

/-- The request holds the submission that was judged, to whoever reads its body as its headers
    say. -/
def SelfDescribing (gate : Gateway σ) (request : Incoming) (s : σ) (out : Request) : Prop :=
  ∃ pairs submitted rest,
    SentAsJudged gate request (gate.record request s) out pairs submitted rest ∧
      out.headers.Carries out.body (judgedText (gate.record request s) submitted rest)

/-- The body of the request is compressed, and the header that says so is named as one that concerns
    the connection only. -/
def DropsCoding (request : Incoming) : Prop :=
  request.headers.declaresGzip = true ∧ "content-encoding" ∈ request.headers.connectionNames

section
variable {gate : Gateway σ} {route : Route} {request : Incoming} {s : σ} {out : Request}
  {submission : Submission} {job : Job}

/-- The headers of a submission say that it is compressed if they did when it was received, and were
    not made to lose it. -/
theorem resubmission_declaresGzip
    (prepared : gate.resubmission request submission job = .ok out) :
    out.headers.declaresGzip =
      (request.headers.declaresGzip &&
        !request.headers.connectionNames.contains "content-encoding") := by
  rw [resubmission] at prepared
  obtain ⟨_, _, headers, _⟩ := outgoing_ok prepared
  rw [headers, declaresGzip_forwardedHeaders, Headers.declaresGzip_announceLength,
    Headers.connectionNames_announceLength]

theorem declaresGzip_of_kept (prepared : gate.resubmission request submission job = .ok out)
    (kept : ¬ DropsCoding request) : out.headers.declaresGzip = request.headers.declaresGzip := by
  rw [resubmission_declaresGzip prepared]
  rw [DropsCoding] at kept
  cases declared : request.headers.declaresGzip
  · simp
  · simpa [declared] using kept

/-- A submission is compressed as the headers that it was received with say. -/
theorem SentAsJudged.body_eq_encodeBody {log : List (Call σ)} {pairs : List (String × Json)}
    {submitted : Job} {rest : Members}
    (judged : SentAsJudged gate request log out pairs submitted rest)
    (prepared : gate.resubmission request submission job = .ok out) :
    out.body = encodeBody request.headers.declaresGzip (judgedText log submitted rest) := by
  obtain ⟨_, sealed, _⟩ := resubmission_ok prepared
  have text := judged.body
  rw [sealed, sealBody, decodeBody_encodeBody] at text
  rw [sealed, sealBody, Except.ok.inj text, judgedText]

/-- A submission describes itself, unless it was compressed and its headers named the one that says
    so as concerning the connection only. In that case alone the backend gets a compressed body that
    is not said to be one. -/
theorem selfDescribing_iff_kept
    (classified : Route.ofRequest? request.method request.uri.path = some route)
    {errand : Errand} {delivery : Delivery}
    (sent : (errand, out, delivery) ∈ (gate.record request s).filterMap Call.sent?) :
    (gate.SelfDescribing request s out ↔ ¬ DropsCoding request) ∧
      (DropsCoding request → out.headers.declaresGzip = false ∧
        ∃ pairs submitted rest,
          SentAsJudged gate request (gate.record request s) out pairs submitted rest ∧
            out.body = gzip (judgedText (gate.record request s) submitted rest)) := by
  obtain ⟨report, handed⟩ := handsOver_of_sent sent
  obtain ⟨submission, caller, t, job, _, passes, prepared, _⟩ := handed.passes classified
  obtain ⟨pairs, judged⟩ := passes.sentAsJudged classified prepared
  rw [← record_eq_calls] at judged
  have unmarked (drops : DropsCoding request) : out.headers.declaresGzip = false := by
    rw [resubmission_declaresGzip prepared]
    simp [drops.2]
  refine ⟨⟨?_, ?_⟩, ?_⟩
  · rintro ⟨pairs, submitted, rest, judged, carries⟩ drops
    have body := judged.body_eq_encodeBody prepared
    rw [drops.1] at body
    exact Headers.not_carries_gzip (unmarked drops) _ (body ▸ carries)
  · intro kept
    refine ⟨pairs, submission.job, submission.rest, judged, ?_⟩
    rw [Headers.Carries, declaresGzip_of_kept prepared kept]
    exact judged.body
  · intro drops
    have body := judged.body_eq_encodeBody prepared
    rw [drops.1] at body
    exact ⟨unmarked drops, pairs, submission.job, submission.rest, judged, body⟩

end

def emptyJobText : Bytes := Utf8.encode "\x7b\"Job\":\x7b\x7d\x7d"

def compressedRegistration (others : Headers) : Incoming :=
  { plainRegistration with
    headers := ("content-encoding", Bytes.ofAscii "gzip") :: others
    body := .ok (gzip emptyJobText) }

/-- What the gate that warns of every job sends for it. -/
def sentCompressed (kept : Headers) : Request :=
  { sentRegistration with
    headers := kept ++ [("content-length", Bytes.ofAscii "33")]
    body := gzip emptyJobText }

theorem compressed_registration_describes_itself :
    Route.ofRequest? "PUT" "/v1/jobs" = some .register ∧
      (.forward, sentCompressed [("content-encoding", Bytes.ofAscii "gzip")],
          .reply compressedReply) ∈
        ((warningGate compressedReply).record (compressedRegistration []) ()).filterMap
          Call.sent? ∧
      (warningGate compressedReply).SelfDescribing (compressedRegistration []) ()
        (sentCompressed [("content-encoding", Bytes.ofAscii "gzip")]) := by
  have classified : Route.ofRequest? "PUT" "/v1/jobs" = some .register := by decide +kernel
  have sent : (.forward, sentCompressed [("content-encoding", Bytes.ofAscii "gzip")],
      .reply compressedReply) ∈
        ((warningGate compressedReply).record (compressedRegistration []) ()).filterMap
          Call.sent? := by
    decide +kernel
  have kept : ¬ DropsCoding (compressedRegistration []) := fun drops => by
    have unnamed : (compressedRegistration []).headers.connectionNames = [] := by decide +kernel
    simpa [unnamed] using drops.2
  exact ⟨classified, sent, (selfDescribing_iff_kept classified sent).1.mpr kept⟩

theorem registration_loses_its_coding :
    Route.ofRequest? "PUT" "/v1/jobs" = some .register ∧
      ((warningGate compressedReply).record (compressedRegistration
          [("connection", Bytes.ofAscii "content-encoding")]) ()).filterMap Call.sent? =
        [(.forward, sentCompressed [], .reply compressedReply)] ∧
      ¬ (sentCompressed []).headers.Carries (sentCompressed []).body emptyJobText ∧
      ¬ (warningGate compressedReply).SelfDescribing
        (compressedRegistration [("connection", Bytes.ofAscii "content-encoding")]) ()
        (sentCompressed []) := by
  have unmarked : (sentCompressed []).headers.declaresGzip = false := by decide +kernel
  have compressed : (compressedRegistration
      [("connection", Bytes.ofAscii "content-encoding")]).headers.declaresGzip = true := by
    decide +kernel
  have unread : ¬ (sentCompressed []).headers.Carries (sentCompressed []).body emptyJobText :=
    Headers.not_carries_gzip unmarked emptyJobText
  refine ⟨by decide +kernel, by decide +kernel, unread, ?_⟩
  rintro ⟨pairs, submitted, rest, judged, carries⟩
  have body := judged.body
  rw [compressed] at body
  -- the member holds one text only, so the one that was judged is that of the empty job
  have text : emptyJobText = judgedText _ submitted rest :=
    Except.ok.inj ((gunzip_gzip emptyJobText).symm.trans body)
  exact unread (text ▸ carries)

end Gateway
end JobGate
