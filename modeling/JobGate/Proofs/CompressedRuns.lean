import Mathlib.Data.List.Forall2
import JobGate.Proofs.HeaderAgreement

/-!
Runs on messages that are coded in different ways. A message is recoded when its body holds the same
text and its headers agree but for those that say how the body is compressed and how long it is. A
gate that receives a recoded request prepares it alike (`prepare_recoded`), makes the same calls,
hands over a recoded request, and gives a recoded answer (`runAlike_of_recodes`); what it makes of a
message is compressed if that was (`keepsCoding`). Messages that are compressed instead of plain are
a case of this (`compression_unnoticed`).
-/
namespace JobGate

variable {σ : Type}

namespace Headers

/-- The headers agree on all names but those that say how the body is compressed and how long it
    is. -/
def AgreeBeyondCoding (a b : Headers) : Prop :=
  ∀ name, name ≠ "content-encoding" → name ≠ "content-length" → a.all name = b.all name

/-- The bodies hold the same text, each compressed as the headers with it say. -/
def SameText (a b : Headers) (body other : Bytes) : Prop :=
  ∃ text, a.Carries body text ∧ b.Carries other text

theorem carries_unmarked {headers : Headers} (unmarked : headers.declaresGzip = false)
    (body : Bytes) : headers.Carries body body := by
  rw [Carries, unmarked]
  rfl

/-- What a body holds depends on the headers only so far as they say whether it is compressed. -/
theorem SameText.congr {a b c d : Headers} {body other : Bytes} (same : SameText a b body other)
    (left : c.declaresGzip = a.declaresGzip) (right : d.declaresGzip = b.declaresGzip) :
    SameText c d body other := by
  obtain ⟨text, here, there⟩ := same
  exact ⟨text, by rwa [Carries, left], by rwa [Carries, right]⟩

namespace AgreeBeyondCoding

variable {a b : Headers}

theorem iff_agreeBeyond :
    AgreeBeyondCoding a b ↔ AgreeBeyond ["content-encoding", "content-length"] a b := by
  simp [AgreeBeyondCoding, AgreeBeyond]

variable (agree : AgreeBeyondCoding a b)
include agree

theorem connectionNames : a.connectionNames = b.connectionNames :=
  (iff_agreeBeyond.mp agree).connectionNames (by decide)

theorem token : a.token? = b.token? := (iff_agreeBeyond.mp agree).token (by decide)

theorem clientAddress (peer : Option SocketAddress) : a.clientAddress peer = b.clientAddress peer :=
  (iff_agreeBeyond.mp agree).clientAddress (by decide) peer

theorem announceLength (n m : Nat) :
    AgreeBeyondCoding (a.announceLength n) (b.announceLength m) :=
  iff_agreeBeyond.mpr ((iff_agreeBeyond.mp agree).announceLength (.inr (by decide)))

theorem endToEnd : AgreeBeyondCoding a.endToEnd b.endToEnd :=
  iff_agreeBeyond.mpr ((iff_agreeBeyond.mp agree).endToEnd (by decide))

theorem forwardedHeaders (peer : Option SocketAddress) :
    AgreeBeyondCoding (Gateway.forwardedHeaders peer a) (Gateway.forwardedHeaders peer b) :=
  iff_agreeBeyond.mpr ((iff_agreeBeyond.mp agree).forwardedHeaders (by decide) peer)

end AgreeBeyondCoding
end Headers

/-- The content of a reply, unless it breaks off. -/
def Reply.content (reply : Reply) : Except Unit Bytes :=
  if reply.complete then .ok reply.body else .error ()

theorem Reply.content_ok {reply : Reply} {body : Bytes} (whole : reply.content = .ok body) :
    reply.complete = true ∧ reply.body = body := by
  rcases complete : reply.complete
  · simp [Reply.content, complete] at whole
  · simpa [Reply.content, complete] using whole

theorem Reply.content_error {reply : Reply} {e : Unit} (broken : reply.content = .error e) :
    reply.complete = false := by
  rcases complete : reply.complete
  · rfl
  · simp [Reply.content, complete] at broken

/-- A request that is received with its body coded in another way. -/
structure Incoming.Recodes (request other : Incoming) : Prop where
  method : request.method = other.method
  uri : request.uri = other.uri
  version : request.version = other.version
  headers : request.headers.AgreeBeyondCoding other.headers
  body : EndsAlike (request.headers.SameText other.headers) request.body other.body

/-- A request that is sent with its body coded in another way. -/
structure Request.Recodes (out other : Request) : Prop where
  method : out.method = other.method
  uri : out.uri = other.uri
  headers : out.headers.AgreeBeyondCoding other.headers
  content : EndsAlike (out.headers.SameText other.headers) out.content other.content

/-- A reply with its body coded in another way. -/
structure Reply.Recodes (reply other : Reply) : Prop where
  status : reply.status = other.status
  version : reply.version = other.version
  headers : reply.headers.AgreeBeyondCoding other.headers
  content : EndsAlike (reply.headers.SameText other.headers) reply.content other.content

/-- The same comes back for two requests, but for the coding of a reply; the reply may be passed on
    with the header that says how it is compressed. -/
inductive Delivery.Recodes : Delivery → Delivery → Prop where
  | reply {reply other : Reply} (recodes : reply.Recodes other)
      (kept : "content-encoding" ∉ reply.headers.connectionNames) :
      Recodes (.reply reply) (.reply other)
  | failed (e : TransportError) : Recodes (.failed e) (.failed e)
  | silent : Recodes .silent .silent

/-- The same call but for the coding of what is sent and of what comes back. -/
inductive Call.Recodes : Call σ → Call σ → Prop where
  | same {call : Call σ} (unsent : call.sent? = none) : Recodes call call
  | sent {errand : Errand} {out other : Request} {delivery back : Delivery}
      (request : out.Recodes other) (delivered : delivery.Recodes back) :
      Recodes (.send errand out delivery) (.send errand other back)

/-- What the gate answers itself is no matter of coding. -/
theorem Fault.recodes_reply (fault : Fault) : fault.reply.Recodes fault.reply where
  status := rfl
  version := rfl
  headers _ _ _ := rfl
  content := by
    have unmarked : fault.reply.headers.declaresGzip = false :=
      Headers.declaresGzip_eq_false (by simp [Fault.reply, Headers.all_singleton])
    exact .done ⟨_, Headers.carries_unmarked unmarked _, Headers.carries_unmarked unmarked _⟩

namespace Gateway

/-- The gate in front of another network. -/
def facing (gate : Gateway σ) (net : Network σ) : Gateway σ := { gate with network := net }

section
variable (gate : Gateway σ) (net : Network σ)

theorem decide_facing (route : Route) (payload : Payload) (s : σ) :
    (gate.facing net).decide route payload s = gate.decide route payload s := by
  cases route <;> simp only [decide, facing]

theorem outgoing_facing (request : Incoming) (headers : Headers) (body : Except String Bytes) :
    (gate.facing net).outgoing request headers body = gate.outgoing request headers body := by
  simp only [outgoing, facing]

theorem caller_facing (headers : Headers) (s : σ) :
    (gate.facing net).caller headers s = gate.caller headers s ∧
      (gate.facing net).callerCalls headers s = gate.callerCalls headers s :=
  ⟨rfl, rfl⟩

/-- A request is prepared before the network has a part in it. -/
theorem prepare_facing (request : Incoming) (s : σ) :
    (gate.facing net).prepare request s = gate.prepare request s ∧
      (gate.facing net).prepareCalls request s = gate.prepareCalls request s := by
  obtain ⟨caller, asked⟩ := gate.caller_facing net request.headers s
  constructor
  · simp only [prepare, prepareSubmission, admission, decide_facing, outgoing_facing, caller]
  · simp only [prepareCalls, submissionCalls, admissionCalls, asked, caller]
    simp only [facing]

end

/-! ## Preparing -/

section
variable {gate : Gateway σ} {request other : Incoming}

/-- Requests that are made of recoded messages are recoded. -/
theorem outgoing_recoded (recodes : request.Recodes other) {a b : Headers}
    {body also : Except String Bytes} (agree : a.AgreeBeyondCoding b)
    (kept : "content-encoding" ∉ a.connectionNames)
    (content : EndsAlike (a.SameText b) body also) :
    EndsAlike Request.Recodes (gate.outgoing request a body) (gate.outgoing other b also) := by
  have keptOther : "content-encoding" ∉ b.connectionNames := agree.connectionNames ▸ kept
  rcases made : gate.outgoing request a body with fault | out
  · rcases found : gate.backend.forwardTarget request.uri.target? with e | uri
    · obtain rfl : Fault.target e = fault := by simpa [outgoing, found] using made
      rw [recodes.uri] at found
      simpa [outgoing, found] using EndsAlike.failed _
    · simp [outgoing, found] at made
  · obtain ⟨found, method, headers, same⟩ := outgoing_ok made
    rcases remade : gate.outgoing other b also with fault | out'
    · rw [recodes.uri] at found
      simp [outgoing, found] at remade
    · obtain ⟨found', method', headers', same'⟩ := outgoing_ok remade
      refine .done ⟨?_, ?_, ?_, ?_⟩
      · rw [method, method', recodes.method]
      · rw [recodes.uri] at found
        exact Except.ok.inj (found.symm.trans found')
      · rw [headers, headers']
        exact agree.forwardedHeaders gate.peer
      · rw [headers, headers', same, same']
        refine content.mono fun _ _ text => text.congr ?_ ?_
        · simp [declaresGzip_forwardedHeaders, kept]
        · simp [declaresGzip_forwardedHeaders, keptOther]

theorem caller_recoded (agree : request.headers.AgreeBeyondCoding other.headers) (s : σ) :
    gate.caller request.headers s = gate.caller other.headers s ∧
      gate.callerCalls request.headers s = gate.callerCalls other.headers s := by
  simp only [caller, callerCalls, agree.token, agree.clientAddress gate.peer, and_self]

/-- Bodies that hold the same text hold the same submission. -/
theorem openBody_sameText {a b : Headers} {body also : Bytes} (same : a.SameText b body also) :
    openBody a body = openBody b also := by
  obtain ⟨text, here, there⟩ := same
  rw [Headers.Carries] at here there
  rw [openBody, openBody, here, there]

/-- A text that is encoded and framed as two messages say is the same in both. -/
theorem sameText_encodeBody (a b : Headers) (text : Bytes) :
    Headers.SameText (a.announceLength (encodeBody a.declaresGzip text).length)
      (b.announceLength (encodeBody b.declaresGzip text).length) (encodeBody a.declaresGzip text)
      (encodeBody b.declaresGzip text) := by
  refine ⟨text, ?_, ?_⟩
  · rw [Headers.Carries, Headers.declaresGzip_announceLength]
    exact decodeBody_encodeBody _ _
  · rw [Headers.Carries, Headers.declaresGzip_announceLength]
    exact decodeBody_encodeBody _ _

/-- Both were prepared with the same calls counted, in the same state, for the same report, or
    failed alike. -/
structure PreparedAlike (prepared also : Handled (Request × Option Report) × σ) : Prop where
  result : EndsAlike (fun made remade => made.1.Recodes remade.1 ∧ made.2 = remade.2)
    prepared.1.result also.1.result
  events : prepared.1.events = also.1.events
  state : prepared.2 = also.2

theorem preparedAlike_error (fault : Fault) (events : List Event) (s : σ) :
    PreparedAlike (⟨.error fault, events⟩, s) (⟨.error fault, events⟩, s) :=
  ⟨.failed fault, rfl, rfl⟩

theorem preparedAlike_outgoing (recodes : request.Recodes other) {a b : Headers}
    {body also : Except String Bytes} (agree : a.AgreeBeyondCoding b)
    (kept : "content-encoding" ∉ a.connectionNames)
    (content : EndsAlike (a.SameText b) body also) (report : Option Report) (events : List Event)
    (s : σ) :
    PreparedAlike (⟨(gate.outgoing request a body).map fun out => (out, report), events⟩, s)
      (⟨(gate.outgoing other b also).map fun out => (out, report), events⟩, s) := by
  have made := gate.outgoing_recoded recodes agree kept content
  generalize gate.outgoing request a body = one, gate.outgoing other b also = two at made
  exact ⟨made.map fun _ _ both => ⟨both, rfl⟩, rfl, rfl⟩

theorem prepareSubmission_recoded (recodes : request.Recodes other)
    (kept : "content-encoding" ∉ request.headers.connectionNames) (route : Route) (caller : Caller)
    (s : σ) :
    PreparedAlike (gate.prepareSubmission route request caller s)
        (gate.prepareSubmission route other caller s) ∧
      gate.submissionCalls request caller s = gate.submissionCalls other caller s := by
  rcases recodes.body.cases with ⟨reason, read, reread⟩ | ⟨body, also, read, reread, same⟩
  · simp only [prepareSubmission, submissionCalls, read, reread, and_true]
    exact preparedAlike_error _ _ _
  · have opened := openBody_sameText same
    refine ⟨?_, by simp only [submissionCalls, admissionCalls, read, reread, opened]⟩
    rcases found : openBody other.headers also with fault | submission
    · simp only [prepareSubmission, admission, read, reread, opened, found]
      exact preparedAlike_error _ _ _
    · rcases ran : gate.decide route ⟨submission.job, some caller⟩ s with
        ⟨⟨refusal | ⟨job, report⟩, events⟩, t⟩
      · simp only [prepareSubmission, admission, read, reread, opened, found, ran]
        exact preparedAlike_error _ _ _
      · simp only [prepareSubmission, admission, read, reread, opened, found, ran]
        refine preparedAlike_outgoing recodes (recodes.headers.announceLength _ _) ?_
          (.done (sameText_encodeBody _ _ _)) _ _ _
        rwa [Headers.connectionNames_announceLength]

/-- A recoded request is prepared alike, with the same calls. -/
theorem prepare_recoded (recodes : request.Recodes other)
    (kept : "content-encoding" ∉ request.headers.connectionNames) (s : σ) :
    PreparedAlike (gate.prepare request s) (gate.prepare other s) ∧
      gate.prepareCalls request s = gate.prepareCalls other s := by
  obtain ⟨same, asked⟩ := gate.caller_recoded recodes.headers s
  rcases found : gate.caller other.headers s with ⟨fault | caller, t⟩
  · simp only [prepare, prepareCalls, same, asked, found, and_true]
    exact preparedAlike_error _ _ _
  · simp only [prepare, prepareCalls, same, asked, found, recodes.method, recodes.uri]
    rcases Route.ofRequest? other.method other.uri.path with _ | route
    · exact ⟨preparedAlike_outgoing recodes recodes.headers kept recodes.body _ _ _, rfl⟩
    · obtain ⟨prepared, calls⟩ := prepareSubmission_recoded recodes kept route caller t
      exact ⟨prepared, by rw [calls]⟩

end

theorem amendReply_recoded {reply other : Reply} (recodes : reply.Recodes other)
    (report : Report) :
    EndsAlike Reply.Recodes (amendReply report reply) (amendReply report other) := by
  rcases recodes.content.cases with ⟨_, broken, also⟩ | ⟨body, back, whole, also, text, here, there⟩
  · simpa [amendReply, Reply.content_error broken, Reply.content_error also] using
      EndsAlike.failed _
  · obtain ⟨complete, rfl⟩ := Reply.content_ok whole
    obtain ⟨arrived, rfl⟩ := Reply.content_ok also
    rw [Headers.Carries] at here there
    rcases folded : report.fold text with e | amended
    · simpa [amendReply, complete, arrived, here, there, folded] using EndsAlike.failed _
    · simp only [amendReply, complete, arrived, here, there, folded]
      refine .done ⟨recodes.status, recodes.version, recodes.headers.announceLength _ _, ?_⟩
      simp only [Reply.content, if_true]
      exact .done (sameText_encodeBody _ _ amended)

/-- Recoded replies are finished alike. -/
theorem finish_recoded {reply other : Reply} (recodes : reply.Recodes other)
    (kept : "content-encoding" ∉ reply.headers.connectionNames) (report : Option Report) :
    EndsAlike Reply.Recodes (finish report reply) (finish report other) := by
  have keptOther : "content-encoding" ∉ other.headers.connectionNames :=
    recodes.headers.connectionNames ▸ kept
  have passed : Reply.Recodes { reply with headers := reply.headers.endToEnd }
      { other with headers := other.headers.endToEnd } :=
    ⟨recodes.status, recodes.version, recodes.headers.endToEnd,
      recodes.content.mono fun _ _ text => text.congr (Headers.declaresGzip_endToEnd kept)
        (Headers.declaresGzip_endToEnd keptOther)⟩
  rcases report with _ | report
  · exact .done passed
  · simp only [finish]
    by_cases due : (!report.isEmpty && isSuccess reply.status) = true
    · rw [if_pos due, if_pos (recodes.status ▸ due)]
      exact amendReply_recoded passed report
    · rw [if_neg due, if_neg (recodes.status ▸ due)]
      exact .done passed

/-! ## Sending -/

section
variable {gate : Gateway σ} {net : Network σ} {request other : Incoming}
  (replies : ∀ out also t, out.Recodes also →
    Delivery.Recodes (gate.network.dispatch .forward out t).1 (net.dispatch .forward also t).1)
include replies

theorem send_recoded {out also : Request} (recodes : out.Recodes also) (s : σ) :
    Delivery.Recodes (gate.network.send .forward out s).1 (net.send .forward also s).1 ∧
      List.Forall₂ Call.Recodes (gate.network.sendCalls .forward out s)
        (net.sendCalls .forward also s) := by
  have delivered := replies out also s recodes
  simp only [Network.send, Network.sendCalls, recodes.uri]
  by_cases absolute : also.uri.isAbsolute
  · by_cases http : also.uri.scheme = some "http"
    · simp [absolute, http, delivered, Call.Recodes.sent recodes delivered]
    · simpa [absolute, http] using Delivery.Recodes.failed _
  · simpa [absolute] using Delivery.Recodes.failed _

/-- What comes of sending recoded requests is the same, but for the coding. -/
theorem forward_recoded {out also : Request} (recodes : out.Recodes also) (report : Option Report)
    (s : σ) :
    EndsAlike Reply.Recodes (gate.forward out report s).1
      ((gate.facing net).forward also report s).1 := by
  obtain ⟨delivered, _⟩ := send_recoded replies recodes s
  rcases went : gate.network.send .forward out s with ⟨delivery, t⟩
  rcases back : net.send .forward also s with ⟨delivery', t'⟩
  rw [went, back] at delivered
  cases delivered with
  | reply same kept =>
    simp only [forward, facing, went, back]
    exact finish_recoded same kept report
  | failed e =>
    simp only [forward, facing, went, back]
    exact .failed _
  | silent =>
    simp only [forward, facing, went, back]
    exact .failed _

/-- A recoded request is run with the same calls, but for the coding of what is sent. -/
theorem run_recoded (recodes : request.Recodes other)
    (kept : "content-encoding" ∉ request.headers.connectionNames) (s : σ) :
    EndsAlike Reply.Recodes (gate.run request s).1.result
        ((gate.facing net).run other s).1.result ∧
      (gate.run request s).1.events = ((gate.facing net).run other s).1.events ∧
      List.Forall₂ Call.Recodes (gate.calls request s) ((gate.facing net).calls other s) := by
  obtain ⟨alike, asked⟩ := gate.prepare_recoded recodes kept s
  obtain ⟨unchanged, sameCalls⟩ := gate.prepare_facing net other s
  have before : List.Forall₂ Call.Recodes (gate.prepareCalls request s)
      ((gate.facing net).prepareCalls other s) := by
    rw [sameCalls, ← asked]
    refine List.forall₂_same.mpr fun call made => .same ?_
    exact List.filterMap_eq_nil_iff.mp (gate.kinds_prepareCalls request s).1 call made
  rcases prepared : gate.prepare request s with ⟨⟨result, events⟩, t⟩
  rcases again : gate.prepare other s with ⟨⟨result', events'⟩, t'⟩
  rw [prepared, again] at alike
  obtain ⟨alike, rfl, rfl⟩ := alike
  cases alike with
  | failed fault =>
    simp only [run, calls, prepared, again, unchanged, List.append_nil, true_and]
    exact ⟨.failed fault, before⟩
  | @done made remade both =>
    obtain ⟨out, report⟩ := made
    obtain ⟨also, report'⟩ := remade
    obtain ⟨both, rfl⟩ := both
    obtain ⟨_, sent⟩ := send_recoded replies both t
    have went := forward_recoded replies both report t
    have versioned (reply back : Reply) (same : reply.Recodes back) :
        Reply.Recodes { reply with version := request.version }
          { back with version := other.version } :=
      ⟨same.status, recodes.version, same.headers, same.content⟩
    simp only [run, calls, prepared, again, unchanged, true_and]
    exact ⟨went.map versioned, List.rel_append before sent⟩

end

/-- The runs make the same calls with the same arguments, but that the messages to and from the
    backend are recoded; they count the same, fail alike, and give the same answer but for the
    coding. -/
structure RunAlike (gate again : Gateway σ) (request other : Incoming) (s : σ) : Prop where
  calls : List.Forall₂ Call.Recodes (gate.record request s) (again.record other s)
  events : (gate.handle request s).1.2 = (again.handle other s).1.2
  result : EndsAlike Reply.Recodes (gate.run request s).1.result (again.run other s).1.result
  answer : (gate.handle request s).1.1.Recodes (again.handle other s).1.1

/-- A gate makes no difference between codings of a message. -/
theorem runAlike_of_recodes {gate : Gateway σ} {net : Network σ} {request other : Incoming}
    (recodes : request.Recodes other)
    (kept : "content-encoding" ∉ request.headers.connectionNames)
    (replies : ∀ out also t, out.Recodes also →
      Delivery.Recodes (gate.network.dispatch .forward out t).1 (net.dispatch .forward also t).1)
    (s : σ) : RunAlike gate (gate.facing net) request other s := by
  obtain ⟨result, events, calls⟩ := run_recoded replies recodes kept s
  refine ⟨by rwa [record_eq_calls, record_eq_calls], events, result, ?_⟩
  show (answer (gate.run request s).1.result).Recodes
    (answer ((gate.facing net).run other s).1.result)
  rcases result.cases with ⟨fault, failed, also⟩ | ⟨reply, back, done, again, both⟩
  · rw [failed, also]
    exact fault.recodes_reply
  · rw [done, again]
    exact both

/-- What the gate makes of a message is compressed if the message was. -/
structure KeepsCoding (gate : Gateway σ) (request : Incoming) (s : σ) : Prop where
  sent : ∀ errand out delivery,
    (errand, out, delivery) ∈ (gate.record request s).filterMap Call.sent? →
      out.headers.declaresGzip = request.headers.declaresGzip
  answered : ∀ errand out reply answer,
    (errand, out, .reply reply) ∈ (gate.record request s).filterMap Call.sent? →
      (gate.run request s).1.result = .ok answer →
        answer.headers.declaresGzip = reply.headers.declaresGzip

section
variable {gate : Gateway σ} {request : Incoming} {s : σ} {out : Request}

theorem HandsOver.declaresGzip {report : Option Report} {delivery : Delivery}
    (handed : gate.HandsOver request s out report delivery)
    (kept : "content-encoding" ∉ request.headers.connectionNames) :
    out.headers.declaresGzip = request.headers.declaresGzip := by
  rcases classified : Route.ofRequest? request.method request.uri.path with _ | route
  · obtain ⟨events, t, u, prepared, _⟩ := handed
    rcases gate.identifies_or_fails request.headers s with ⟨caller, v, identified⟩ |
      ⟨source, token, failure, v, asked, failed⟩
    · rw [prepare_unrecognised classified identified] at prepared
      simp only [Prod.mk.injEq, Handled.mk.injEq] at prepared
      obtain ⟨made, outgoing, same⟩ := map_ok prepared.1.1
      obtain rfl : made = out := (Prod.mk.inj same).1
      obtain ⟨_, _, headers, _⟩ := outgoing_ok outgoing
      rw [headers, declaresGzip_forwardedHeaders]
      simp [kept]
    · simp [prepare, asked.caller, failed] at prepared
  · obtain ⟨submission, caller, t, job, _, _, prepared, _⟩ := handed.passes classified
    exact declaresGzip_of_kept prepared fun drops => kept drops.2

theorem HandsOver.declaresGzip_answer {report : Option Report} {reply answer : Reply}
    (handed : gate.HandsOver request s out report (.reply reply))
    (kept : "content-encoding" ∉ reply.headers.connectionNames)
    (answered : (gate.run request s).1.result = .ok answer) :
    answer.headers.declaresGzip = reply.headers.declaresGzip := by
  obtain ⟨result, settles, ran⟩ := handed.settles
  rw [ran] at answered
  obtain ⟨made, rfl, rfl⟩ := map_ok answered
  cases settles with
  | relayed idle => exact Headers.declaresGzip_endToEnd kept
  | amended given due amends =>
    cases amends with
    | folded whole inflated folded rewrites =>
      exact rewrites.coded.trans (Headers.declaresGzip_endToEnd kept)

theorem keepsCoding (kept : "content-encoding" ∉ request.headers.connectionNames)
    (replies : ∀ errand out reply,
      (errand, out, .reply reply) ∈ (gate.record request s).filterMap Call.sent? →
        "content-encoding" ∉ reply.headers.connectionNames) :
    gate.KeepsCoding request s where
  sent errand out delivery sent := by
    obtain ⟨report, handed⟩ := handsOver_of_sent sent
    exact handed.declaresGzip kept
  answered errand out reply answer sent answered := by
    obtain ⟨report, handed⟩ := handsOver_of_sent sent
    exact handed.declaresGzip_answer (replies errand out reply sent) answered

end

end Gateway

/-! ## Plain and compressed messages -/

/-- The header that says that the body is compressed is added, and the length may be another. -/
structure Headers.AddsGzip (plain coded : Headers) : Prop where
  coding : coded.all "content-encoding" = [Bytes.ofAscii "gzip"]
  others : plain.AgreeBeyondCoding coded

/-- The request as it is, or with any body in its place that inflates to the plain one. -/
inductive Incoming.Variant (request : Incoming) : Incoming → Prop where
  | plain : request.Variant request
  | compressed {headers : Headers} {coded : Except String Bytes}
      (adds : request.headers.AddsGzip headers)
      (inflates : EndsAlike (fun plain zipped => gunzip zipped = .ok plain) request.body coded) :
      request.Variant { request with headers, body := coded }

/-- The reply as it is, or with any body in its place that inflates to the plain one. -/
inductive Reply.Variant (reply : Reply) : Reply → Prop where
  | plain : reply.Variant reply
  | compressed {headers : Headers} {coded : Bytes} (adds : reply.headers.AddsGzip headers)
      (inflates : reply.complete = true → gunzip coded = .ok reply.body) :
      reply.Variant { reply with headers, body := coded }

/-- A plain reply and the same or a compressed form of it come back, or no reply at all. -/
inductive Delivery.Variant : Delivery → Delivery → Prop where
  | reply {reply other : Reply} (plain : reply.headers.all "content-encoding" = [])
      (kept : "content-encoding" ∉ reply.headers.connectionNames) (variant : reply.Variant other) :
      Variant (.reply reply) (.reply other)
  | failed (e : TransportError) : Variant (.failed e) (.failed e)
  | silent : Variant .silent .silent

namespace Headers

/-- Every plain message has a compressed form. -/
theorem addsGzip_append {plain : Headers} (unmarked : plain.all "content-encoding" = []) :
    plain.AddsGzip (plain ++ [("content-encoding", Bytes.ofAscii "gzip")]) where
  coding := by rw [all_append, unmarked, all_singleton, if_pos rfl, List.nil_append]
  others name coding _ := by rw [all_append, all_singleton, if_neg coding, List.append_nil]

theorem AddsGzip.declaresGzip {plain coded : Headers} (adds : plain.AddsGzip coded) :
    coded.declaresGzip = true := by
  rw [Headers.declaresGzip, entries, adds.coding]
  decide +kernel

theorem AddsGzip.sameText {plain coded : Headers} (adds : plain.AddsGzip coded)
    (unmarked : plain.all "content-encoding" = []) {body other : Bytes}
    (inflates : gunzip other = .ok body) : SameText plain coded body other := by
  refine ⟨body, carries_unmarked (declaresGzip_eq_false unmarked) body, ?_⟩
  rw [Carries, adds.declaresGzip]
  exact inflates

theorem sameText_self {headers : Headers} (unmarked : headers.all "content-encoding" = [])
    (body : Bytes) : SameText headers headers body body := by
  have carries := carries_unmarked (declaresGzip_eq_false unmarked) body
  exact ⟨body, carries, carries⟩

end Headers

theorem Incoming.Variant.recodes {request other : Incoming} (variant : request.Variant other)
    (plain : request.headers.all "content-encoding" = []) : request.Recodes other := by
  cases variant with
  | plain =>
    refine ⟨rfl, rfl, rfl, fun _ _ _ => rfl, ?_⟩
    rcases request.body with reason | body
    · exact .failed reason
    · exact .done (Headers.sameText_self plain body)
  | compressed adds inflates =>
    exact ⟨rfl, rfl, rfl, adds.others, inflates.mono fun _ _ => adds.sameText plain⟩

theorem Reply.Variant.recodes {reply other : Reply} (variant : reply.Variant other)
    (plain : reply.headers.all "content-encoding" = []) : reply.Recodes other := by
  cases variant with
  | plain =>
    refine ⟨rfl, rfl, fun _ _ _ => rfl, ?_⟩
    rw [Reply.content]
    split
    · exact .done (Headers.sameText_self plain _)
    · exact .failed ()
  | compressed adds inflates =>
    refine ⟨rfl, rfl, adds.others, ?_⟩
    simp only [Reply.content]
    split
    · rename_i complete
      exact .done (adds.sameText plain (inflates complete))
    · exact .failed ()

theorem Delivery.Variant.recodes {delivery other : Delivery} (variant : delivery.Variant other) :
    delivery.Recodes other := by
  cases variant with
  | reply plain kept variant => exact .reply (variant.recodes plain) kept
  | failed e => exact .failed e
  | silent => exact .silent

/-- The network gives the same replies as another, plain or compressed, to requests that differ in
    their coding only. -/
def Network.AnswersAlike (net other : Network σ) : Prop :=
  ∀ out also t, out.Recodes also →
    (net.dispatch .forward out t).1.Variant (other.dispatch .forward also t).1

/-- No reply in recoded calls names the header that says how it is compressed. -/
theorem kept_of_recodes {log again : List (Call σ)} (calls : List.Forall₂ Call.Recodes log again)
    {errand : Errand} {out : Request} {reply : Reply}
    (sent : (errand, out, .reply reply) ∈ log.filterMap Call.sent? ∨
      (errand, out, .reply reply) ∈ again.filterMap Call.sent?) :
    "content-encoding" ∉ reply.headers.connectionNames := by
  induction calls with
  | nil => simp at sent
  | cons head _ ih =>
    cases head with
    | same unsent =>
      rw [List.filterMap_cons_none unsent, List.filterMap_cons_none unsent] at sent
      exact ih sent
    | sent request delivered =>
      simp only [Call.sent?, List.filterMap_cons, List.mem_cons, Prod.mk.injEq] at sent
      rcases sent with (⟨rfl, rfl, rfl⟩ | later) | (⟨rfl, rfl, rfl⟩ | later)
      · cases delivered with
        | reply recodes kept => exact kept
      · exact ih (.inl later)
      · cases delivered with
        | reply recodes kept => exact recodes.headers.connectionNames ▸ kept
      · exact ih (.inr later)

namespace Gateway

/-- A plain request and a plain reply may be compressed, either or both, and the run stays the same
    but for the coding: the same controllers are shown the same payloads, what is sent and what is
    answered holds the same text, and each is compressed if the message that it is made of was. -/
theorem compression_unnoticed {gate : Gateway σ} {net : Network σ} {request other : Incoming}
    (plain : request.headers.all "content-encoding" = [])
    (kept : "content-encoding" ∉ request.headers.connectionNames)
    (variant : request.Variant other) (replies : gate.network.AnswersAlike net) (s : σ) :
    RunAlike gate (gate.facing net) request other s ∧
      gate.KeepsCoding request s ∧ (gate.facing net).KeepsCoding other s := by
  have recodes := variant.recodes plain
  have alike := runAlike_of_recodes recodes kept
    (fun out also t same => (replies out also t same).recodes) s
  refine ⟨alike, ?_, ?_⟩
  · exact keepsCoding kept fun _ _ _ sent => kept_of_recodes alike.calls (.inl sent)
  · refine keepsCoding ?_ fun _ _ _ sent => kept_of_recodes alike.calls (.inr sent)
    rwa [← recodes.headers.connectionNames]

def plainReply : Reply :=
  { compressedReply with
    headers := [("connection", Bytes.ofAscii "close, X-Hop"), ("x-hop", Bytes.ofAscii "1")]
    body := repliedText }

theorem registration_compression_unnoticed :
    plainRegistration.headers.all "content-encoding" = [] ∧
      "content-encoding" ∉ plainRegistration.headers.connectionNames ∧
      plainRegistration.Variant (compressedRegistration []) ∧
      (warningGate plainReply).network.AnswersAlike (warningGate compressedReply).network ∧
      RunAlike (warningGate plainReply) (warningGate compressedReply) plainRegistration
        (compressedRegistration []) () ∧
      (warningGate plainReply).KeepsCoding plainRegistration () ∧
      (warningGate compressedReply).KeepsCoding (compressedRegistration []) () := by
  have plain : plainRegistration.headers.all "content-encoding" = [] := rfl
  have kept : "content-encoding" ∉ plainRegistration.headers.connectionNames := by decide +kernel
  have variant : plainRegistration.Variant (compressedRegistration []) :=
    .compressed (Headers.addsGzip_append plain) (.done (gunzip_gzip _))
  have replies : (warningGate plainReply).network.AnswersAlike
      (warningGate compressedReply).network :=
    fun _ _ _ _ => .reply rfl (by decide +kernel)
      (.compressed (Headers.addsGzip_append rfl) fun _ => gunzip_gzip repliedText)
  exact ⟨plain, kept, variant, replies, compression_unnoticed plain kept variant replies ()⟩

end Gateway
end JobGate
