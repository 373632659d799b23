import JobGate.Proofs.CollaboratorFailures
import JobGate.Proofs.ConnectionHeaders

/-!
Tokens of callers. A gate that has a token looked up does so before all else, and asks the backend
once (`IdentitySource.resolve_overheard`). A lookup that brings no description ends the request
(`LooksUp.fails`), and one that does tells every controller who calls (`LooksUp.succeeds`). Without
a lookup all controllers see a caller of whom nothing is known (`allSee_of_idle`). The case that a
reader would not expect is a token that cannot be read: only the first value of the header counts,
and only if it is visible and not empty, so that a request with any other passes as one without a
token (`readable_tokens_looked_up`).
-/
namespace JobGate

variable {σ : Type}

/-- The text that a visible value spells. -/
def visibleText (value : Bytes) : String := String.ofList (Bytes.toLatin1 value)

theorem isVisibleOctet_written {o : UInt8} (visible : isVisibleOctet o = true) :
    Utf8.encodeChar (Char.ofNat o.toNat) = [o] ∧ isValueOctet o = true := by
  simp only [isVisibleOctet, Bool.or_eq_true, Bool.and_eq_true, decide_eq_true_eq,
    beq_iff_eq] at visible
  have small : o.toNat < 0x80 := by
    rcases visible with ⟨_, below⟩ | rfl
    · exact lt_trans (UInt8.lt_iff_toNat_lt.mp below) (by decide)
    · decide
  constructor
  · simp [Utf8.encodeChar, Bytes.toNat_ofNat_octet o, small]
  · rcases visible with ⟨above, below⟩ | rfl
    · have : o ≠ 0x7F := by
        rintro rfl
        exact absurd below (by decide)
      simp [isValueOctet, above, this]
    · rfl

theorem headerValue?_visibleText {value : Bytes} (visible : value.all isVisibleOctet = true) :
    headerValue? (visibleText value) = some value := by
  -- visible octets are ASCII, which is encoded octet by octet
  have written : ∀ o ∈ value, Utf8.encodeChar (Char.ofNat o.toNat) = [o] ∧ isValueOctet o = true :=
    fun o member => isVisibleOctet_written (List.all_eq_true.mp visible o member)
  have encoded : Utf8.encode (visibleText value) = value := by
    rw [Utf8.encode, visibleText, String.toList_ofList, Bytes.toLatin1, List.flatMap_map]
    calc value.flatMap (fun o => Utf8.encodeChar (Char.ofNat o.toNat))
        = value.flatMap (fun o => [o]) := List.flatMap_congr fun o member => (written o member).1
      _ = value := by simp
  have allowed : isHeaderValue value = true :=
    List.all_eq_true.mpr fun o member => (written o member).2
  simp [headerValue?, encoded, allowed]

namespace Headers

/-- The request carries a token that is not empty, readable or not. -/
def PresentsToken (headers : Headers) : Prop := ∃ value ∈ headers.all tokenHeader, value ≠ []

/-- The first value of the token header is visible and not empty. -/
structure ReadsToken (headers : Headers) (value : Bytes) : Prop where
  first : headers.first? tokenHeader = some value
  visible : value.all isVisibleOctet = true
  nonempty : value ≠ []

theorem token?_eq_some_iff (headers : Headers) (token : String) :
    headers.token? = some token ↔ ∃ value, headers.ReadsToken value ∧ token = visibleText value := by
  constructor
  · intro carried
    simp only [token?, firstText?, Option.map_eq_some_iff, Option.filter_eq_some_iff,
      Option.bind_eq_some_iff] at carried
    obtain ⟨text, ⟨⟨value, first, read⟩, nonempty⟩, rfl⟩ := carried
    by_cases visible : value.all isVisibleOctet = true
    · obtain rfl : Bytes.toLatin1 value = text := by simpa [visibleText?, visible] using read
      refine ⟨value, ⟨first, visible, ?_⟩, rfl⟩
      rintro rfl
      simp [Bytes.toLatin1] at nonempty
    · simp [visibleText?, visible] at read
  · rintro ⟨value, ⟨first, visible, nonempty⟩, rfl⟩
    simp [token?, firstText?, first, visibleText?, visible, visibleText, Bytes.toLatin1, nonempty]

end Headers

/-! ## Looking up a token -/

/-- The backend describes a token: a whole reply reports a success and can be read. -/
structure Reply.Describes (reply : Reply) (described : Identity) : Prop where
  success : isSuccess reply.status = true
  complete : reply.complete = true
  decoded : decodeBytes Identity.decoder reply.body = .ok described

theorem Reply.identity_of_describes {reply : Reply} {described : Identity}
    (describes : reply.Describes described) : reply.identity = .ok described.withoutSecret := by
  simp [Reply.identity, describes.success, describes.complete, describes.decoded]

theorem Reply.describes_of_identity {reply : Reply} {identity : Identity}
    (read : reply.identity = .ok identity) :
    ∃ described, reply.Describes described ∧ identity = described.withoutSecret := by
  rcases success : isSuccess reply.status
  · simp [Reply.identity, success] at read
  · rcases complete : reply.complete
    · simp [Reply.identity, success, complete] at read
    · rcases decoded : decodeBytes Identity.decoder reply.body with e | described
      · simp [Reply.identity, success, complete, decoded] at read
      · refine ⟨described, ⟨success, complete, decoded⟩, ?_⟩
        simpa [Reply.identity, success, complete, decoded] using read.symm

/-- What comes back for a token describes it. -/
def Delivery.Describes (delivery : Delivery) (described : Identity) : Prop :=
  ∃ reply, delivery = .reply reply ∧ reply.Describes described

theorem Delivery.noAnswer_iff (delivery : Delivery) :
    delivery.NoAnswer Identity.decoder ↔ ∀ described, ¬ delivery.Describes described := by
  constructor
  · rintro none described ⟨reply, rfl, success, complete, decoded⟩
    cases none with
    | cut broken => simp [complete] at broken
    | status refused => simp [success] at refused
    | undecodable failed => simp [decoded] at failed
  · intro none
    rcases delivery with reply | e | _
    · rcases success : isSuccess reply.status
      · exact .status success
      · rcases complete : reply.complete
        · exact .cut complete
        · rcases decoded : decodeBytes Identity.decoder reply.body with e | described
          · exact .undecodable decoded
          · exact absurd ⟨reply, rfl, success, complete, decoded⟩ (none described)
    · exact .failed e
    · exact .silent

/-- Who a token belongs to, by what comes back for it. -/
def Delivery.identity : Delivery → Except Failure Identity
  | .reply back => back.identity.mapError IdentityError.asFailure
  | .failed e => .error (IdentityError.request e).asFailure
  | .silent => .error (IdentityError.request .silent).asFailure

theorem Delivery.identity_of_describes {delivery : Delivery} {described : Identity}
    (describes : delivery.Describes described) :
    delivery.identity = .ok described.withoutSecret := by
  obtain ⟨reply, rfl, describes⟩ := describes
  simp [Delivery.identity, Reply.identity_of_describes describes, Except.mapError]

theorem Delivery.describes_of_identity {delivery : Delivery} {identity : Identity}
    (read : delivery.identity = .ok identity) :
    ∃ described, delivery.Describes described ∧ identity = described.withoutSecret := by
  rcases delivery with reply | e | _
  · rcases found : reply.identity with e | held
    · simp [Delivery.identity, found, Except.mapError] at read
    · obtain rfl : held = identity := by simpa [Delivery.identity, found, Except.mapError] using read
      obtain ⟨described, describes, same⟩ := Reply.describes_of_identity found
      exact ⟨described, ⟨reply, rfl, describes⟩, same⟩
  · cases read
  · cases read

theorem Delivery.identity_of_noAnswer {delivery : Delivery}
    (none : delivery.NoAnswer Identity.decoder) : ∃ failure, delivery.identity = .error failure := by
  rcases read : delivery.identity with failure | identity
  · exact ⟨failure, rfl⟩
  · obtain ⟨described, describes, _⟩ := Delivery.describes_of_identity read
    exact absurd describes ((Delivery.noAnswer_iff _).mp none described)

namespace IdentitySource

variable {net : Network σ} {uri : Uri} {token : String} {value : Bytes} {s : σ}

/-- A lookup is one request, and tells what comes back for it. -/
theorem resolve_eq (held : headerValue? token = some value) (s : σ) :
    (ofBackend net uri).resolve token s =
      ((net.send .identify (identityRequest uri value) s).1.identity,
        (net.send .identify (identityRequest uri value) s).2) := by
  rcases went : net.send .identify (identityRequest uri value) s with ⟨reply | e | _, t⟩
  all_goals simp [ofBackend, held, Network.ask, went, Delivery.identity]

/-- A lookup sends the backend one request, which carries the token. -/
theorem resolve_overheard (held : headerValue? token = some value) (log : List (Call σ)) :
    (ofBackend net.watched uri).resolve token (s, log) =
      (((ofBackend net uri).resolve token s).1, (((ofBackend net uri).resolve token s).2,
        log ++ net.sendCalls .identify (identityRequest uri value) s)) := by
  simp [resolve_eq held, net.send_watched]

end IdentitySource

/-! ## What controllers see -/

/-- What a controller was shown, if one was called. -/
def Call.shown? : Call σ → Option Payload
  | .mutator call => some call.shown
  | .validator call => some call.shown
  | _ => none

/-- No token is looked up, and every controller is shown the same caller. -/
def Call.AllSee (caller : Caller) (calls : List (Call σ)) : Prop :=
  ∀ call ∈ calls, call.lookup? = none ∧
    ∀ payload, call.shown? = some payload → payload.caller = some caller

theorem Call.AllSee.append {caller : Caller} {calls more : List (Call σ)}
    (first : AllSee caller calls) (second : AllSee caller more) : AllSee caller (calls ++ more) := by
  intro call member
  rcases List.mem_append.mp member with early | late
  · exact first call early
  · exact second call late

namespace Pipeline

theorem mutatorCalls_caller (mutators : List (Mutator σ)) (payload : Payload) (s : σ) :
    ∀ call ∈ mutatorCalls mutators payload s, call.shown.caller = payload.caller := by
  intro call member
  have shown : call.shown ∈ (mutatorCalls mutators payload s).map (·.shown) :=
    List.mem_map_of_mem member
  rw [mutatorCalls_shown] at shown
  obtain ⟨job, _, same⟩ := List.mem_map.mp shown
  rw [← same]

theorem allSee_reviewCalls (pipeline : Pipeline σ) (job : Job) (caller : Caller) (s : σ) :
    Call.AllSee caller (pipeline.reviewCalls ⟨job, some caller⟩ s) := by
  rw [reviewCalls]
  refine Call.AllSee.append ?_ ?_
  · intro call member
    obtain ⟨made, asked, rfl⟩ := List.mem_map.mp member
    refine ⟨rfl, ?_⟩
    rintro _ ⟨⟩
    exact mutatorCalls_caller pipeline.mutators _ s made asked
  · intro call member
    obtain ⟨made, asked, rfl⟩ := List.mem_map.mp member
    refine ⟨rfl, ?_⟩
    rintro _ ⟨⟩
    rw [judgements] at asked
    split at asked
    · simp at asked
    · rw [validatorCalls_shown _ _ _ made asked]

end Pipeline

theorem Network.allSee_sendCalls (net : Network σ) (caller : Caller) (errand : Errand)
    (request : Request) (s : σ) : Call.AllSee caller (net.sendCalls errand request s) := by
  intro call member
  unfold sendCalls at member
  split at member
  · obtain rfl := List.mem_singleton.mp member
    exact ⟨rfl, nofun⟩
  · simp at member

namespace Gateway

section
variable {gate : Gateway σ} {request : Incoming} {s t : σ} {caller : Caller}

theorem allSee_submissionCalls (gate : Gateway σ) (request : Incoming) (caller : Caller) (s : σ) :
    Call.AllSee caller (gate.submissionCalls request caller s) := by
  have nobody : Call.AllSee caller ([] : List (Call σ)) := by simp [Call.AllSee]
  rcases read : request.body with reason | body
  · simpa [submissionCalls, read] using nobody
  · rcases opened : openBody request.headers body with fault | submission
    · simpa [submissionCalls, admissionCalls, read, opened] using nobody
    · simpa [submissionCalls, admissionCalls, read, opened] using
        gate.pipeline.allSee_reviewCalls submission.job caller s

/-- Once it is known who calls, every controller is told. -/
theorem Identifies.calls (identified : gate.Identifies request.headers s caller t) :
    ∃ later, gate.record request s = gate.callerCalls request.headers s ++ later ∧
      Call.AllSee caller later := by
  have nobody : Call.AllSee caller ([] : List (Call σ)) := by simp [Call.AllSee]
  have admitted := gate.allSee_submissionCalls request caller t
  have sent (out : Request) (u : σ) := gate.network.allSee_sendCalls caller .forward out u
  rw [record_eq_calls, Gateway.calls, prepareCalls, identified.caller, List.append_assoc]
  refine ⟨_, rfl, Call.AllSee.append ?_ ?_⟩
  · rcases Route.ofRequest? request.method request.uri.path with _ | route
    · exact nobody
    · exact admitted
  · rcases gate.prepare request s with ⟨⟨fault | ⟨out, report⟩, events⟩, u⟩
    · exact nobody
    · exact sent out u

theorem LooksUp.callerCalls {source : IdentitySource σ} {token : String}
    (asked : gate.LooksUp request.headers source token) (s : σ) :
    gate.callerCalls request.headers s = [.identify token (source.resolve token s).1] := by
  obtain ⟨wanted, held, carried⟩ := asked
  simp [Gateway.callerCalls, wanted, held, carried]

/-- A lookup that fails is all that is asked, and the request is answered with the failure. -/
theorem LooksUp.fails {source : IdentitySource σ} {token : String} {failure : Failure}
    (asked : gate.LooksUp request.headers source token)
    (failed : (source.resolve token s).1 = .error failure) :
    gate.record request s = [.identify token (.error failure)] ∧
      (gate.handle request s).1.1 = (Fault.identity failure).reply := by
  rcases resolved : source.resolve token s with ⟨result, t⟩
  rw [resolved] at failed
  obtain rfl : result = .error failure := failed
  have unknown := asked.caller s
  rw [resolved] at unknown
  have prepared : gate.prepare request s = (⟨.error (.identity failure), []⟩, t) := by
    simp [prepare, unknown]
  refine ⟨?_, (unsent_of_prepare_error (congrArg (·.1.result) prepared)).2⟩
  simp [record_eq_calls, calls, prepareCalls, prepared, unknown, asked.callerCalls, resolved]

/-- A lookup that succeeds comes first, and tells every controller who calls. -/
theorem LooksUp.succeeds {source : IdentitySource σ} {token : String} {identity : Identity}
    (asked : gate.LooksUp request.headers source token)
    (found : (source.resolve token s).1 = .ok identity) :
    ∃ later, gate.record request s = .identify token (.ok identity) :: later ∧
      Call.AllSee ⟨request.headers.clientAddress gate.peer, identity.accessorId, some identity⟩
        later := by
  have identified : gate.Identifies request.headers s
      ⟨request.headers.clientAddress gate.peer, identity.accessorId, some identity⟩
      (source.resolve token s).2 := .answered asked (Prod.ext found rfl)
  obtain ⟨later, calls, sees⟩ := identified.calls
  rw [asked.callerCalls, found] at calls
  exact ⟨later, calls, sees⟩

theorem allSee_of_idle (idle : ∀ source token, ¬ gate.LooksUp request.headers source token) :
    Call.AllSee ⟨request.headers.clientAddress gate.peer, "", none⟩ (gate.record request s) := by
  obtain ⟨later, calls, sees⟩ := (Identifies.unasked (s := s) idle).calls
  rw [(caller_unasked idle s).2, List.nil_append] at calls
  rwa [calls]

end

/-! ## Vouching -/

/-- Whatever is asked or sent for a request waits for a lookup that succeeds; one that fails rejects
    the request, and one that succeeds tells every controller who calls. -/
structure Vouched (gate : Gateway σ) (request : Incoming) (s : σ) : Prop where
  first : ∀ earlier call later, gate.record request s = earlier ++ call :: later →
    call.lookup? = none → ∃ token identity, .identify token (.ok identity) ∈ earlier
  failed : ∀ token failure, .identify token (.error failure) ∈ gate.record request s →
    gate.Rejects request s (.identity failure)
  shown : ∀ token identity, .identify token (.ok identity) ∈ gate.record request s →
    ∀ call ∈ gate.record request s, ∀ payload, call.shown? = some payload →
      payload.caller =
        some ⟨request.headers.clientAddress gate.peer, identity.accessorId, some identity⟩

section
variable {gate : Gateway σ} {request : Incoming} {s : σ}

theorem LooksUp.vouched {source : IdentitySource σ} {token : String}
    (asked : gate.LooksUp request.headers source token) : gate.Vouched request s := by
  rcases answer : (source.resolve token s).1 with failure | identity
  · obtain ⟨only, answered⟩ := asked.fails answer
    refine ⟨fun earlier call later parts pending => ?_, fun token failure made => ?_,
      fun token identity made => ?_⟩
    · rw [only, eq_comm, List.append_eq_singleton_iff] at parts
      rcases parts with ⟨_, parts⟩ | ⟨_, parts⟩
      · obtain ⟨rfl, _⟩ := List.cons.inj parts
        simp [Call.lookup?] at pending
      · cases parts
    · rw [only, List.mem_singleton] at made
      cases made
      exact ⟨by simp [only, Call.sent?], answered⟩
    · rw [only, List.mem_singleton] at made
      cases made
  · obtain ⟨later, calls, sees⟩ := asked.succeeds answer
    -- there is no second lookup
    have only {other : String} {answer : Except Failure Identity}
        (made : .identify other answer ∈ gate.record request s) : answer = .ok identity := by
      rw [calls] at made
      rcases List.mem_cons.mp made with same | after
      · cases same
        rfl
      · exact absurd (sees _ after).1 (by simp [Call.lookup?])
    refine ⟨fun earlier call rest parts pending => ?_, fun token failure made => ?_,
      fun token found made call member payload shown => ?_⟩
    · rw [calls] at parts
      rcases earlier with _ | ⟨head, more⟩
      · obtain ⟨rfl, _⟩ := List.cons.inj parts
        simp [Call.lookup?] at pending
      · obtain ⟨rfl, _⟩ := List.cons.inj parts
        exact ⟨_, _, .head _⟩
    · cases only made
    · cases only made
      rw [calls] at member
      rcases List.mem_cons.mp member with rfl | after
      · cases shown
      · exact (sees call after).2 payload shown

/-- A request waits for a lookup if its token is looked up, or if nothing is asked or sent at all. -/
theorem vouched_iff (gate : Gateway σ) (request : Incoming) (s : σ) :
    gate.Vouched request s ↔
      (∃ source token, gate.LooksUp request.headers source token) ∨
        gate.record request s = [] := by
  constructor
  · intro vouched
    by_cases asked : ∃ source token, gate.LooksUp request.headers source token
    · exact .inl asked
    · have sees : Call.AllSee _ (gate.record request s) :=
        allSee_of_idle fun source token looksUp => asked ⟨source, token, looksUp⟩
      rcases calls : gate.record request s with _ | ⟨call, later⟩
      · exact .inr rfl
      · have pending := (sees call (by simp [calls])).1
        obtain ⟨token, identity, before⟩ := vouched.first [] call later calls pending
        cases before
  · rintro (⟨source, token, asked⟩ | nothing)
    · exact asked.vouched
    · constructor <;> simp [nothing]

end

/-- A token is looked up before all else: the backend is asked about it once. What comes back
    describes it or is no answer. Without an answer nothing else is asked or sent, and the request
    is refused; else every controller is told whom the token belongs to. -/
structure AsksFirst (gate : Gateway σ) (uri : Uri) (value : Bytes) (request : Incoming) (s : σ) :
    Prop where
  asked : ((IdentitySource.ofBackend gate.network.watched uri).resolve (visibleText value)
    (s, [])).2.2 = gate.network.sendCalls .identify (identityRequest uri value) s
  answered : (gate.network.send .identify (identityRequest uri value) s).1.NoAnswer
      Identity.decoder ∨
    ∃ described, (gate.network.send .identify (identityRequest uri value) s).1.Describes described
  refused : (gate.network.send .identify (identityRequest uri value) s).1.NoAnswer
      Identity.decoder →
    ∃ failure, gate.record request s = [.identify (visibleText value) (.error failure)] ∧
      (gate.handle request s).1.1 =
        { status := 500, headers := [("content-type", Bytes.ofAscii "text/plain")],
          body := Utf8.encode (Fault.identity failure).message }
  told : ∀ described,
    (gate.network.send .identify (identityRequest uri value) s).1.Describes described →
      ∃ later, gate.record request s =
          .identify (visibleText value) (.ok described.withoutSecret) :: later ∧
        Call.AllSee ⟨request.headers.clientAddress gate.peer, described.accessorId,
          some described.withoutSecret⟩ later

/-- A token that can be read is looked up first, if some controller wants that and the backend can
    be asked; in all other cases no controller learns more of the caller than the address. So what
    is done for a request waits for a lookup if the first value of the token header is visible and
    not empty, and otherwise only if nothing is done at all. -/
theorem readable_tokens_looked_up {gate : Gateway σ} {target : Option Uri}
    (source : gate.identity = target.map (IdentitySource.ofBackend gate.network))
    (request : Incoming) (s : σ) :
    (∀ uri value, gate.pipeline.resolvesToken = true → target = some uri →
        request.headers.ReadsToken value → gate.AsksFirst uri value request s) ∧
      (gate.pipeline.resolvesToken = false ∨ target = none ∨
          (∀ value, ¬ request.headers.ReadsToken value) →
        Call.AllSee ⟨request.headers.clientAddress gate.peer, "", none⟩
          (gate.record request s)) ∧
      (gate.pipeline.resolvesToken = true → target.isSome →
        (gate.Vouched request s ↔
          (∃ value, request.headers.ReadsToken value) ∨ gate.record request s = [])) := by
  have looksUp {uri : Uri} {value : Bytes} (wanted : gate.pipeline.resolvesToken = true)
      (set : target = some uri) (reads : request.headers.ReadsToken value) :
      gate.LooksUp request.headers (.ofBackend gate.network uri) (visibleText value) :=
    ⟨wanted, by rw [source, set]; rfl,
      (request.headers.token?_eq_some_iff _).mpr ⟨value, reads, rfl⟩⟩
  refine ⟨fun uri value wanted set reads => ?_, fun idle => ?_, fun wanted set => ?_⟩
  · have asked := looksUp wanted set reads
    have held := headerValue?_visibleText reads.visible
    refine ⟨by simp [IdentitySource.resolve_overheard held], ?_, fun none => ?_,
      fun described describes => ?_⟩
    · by_cases known : ∃ described,
        (gate.network.send .identify (identityRequest uri value) s).1.Describes described
      · exact .inr known
      · exact .inl ((Delivery.noAnswer_iff _).mpr fun described describes =>
          known ⟨described, describes⟩)
    · obtain ⟨failure, failed⟩ := Delivery.identity_of_noAnswer none
      exact ⟨failure, asked.fails (by rw [IdentitySource.resolve_eq held, failed])⟩
    · have found := Delivery.identity_of_describes describes
      exact asked.succeeds (by rw [IdentitySource.resolve_eq held, found])
  · refine allSee_of_idle fun asker token asked => ?_
    obtain ⟨wanted, set, carried⟩ := asked
    rcases idle with unwanted | unset | unread
    · simp [wanted] at unwanted
    · simp [source, unset] at set
    · obtain ⟨value, reads, _⟩ := (request.headers.token?_eq_some_iff _).mp carried
      exact unread value reads
  · obtain ⟨uri, set⟩ := Option.isSome_iff_exists.mp set
    rw [vouched_iff]
    refine or_congr_left ⟨?_, ?_⟩
    · rintro ⟨asker, token, asked⟩
      obtain ⟨value, reads, _⟩ := (request.headers.token?_eq_some_iff _).mp asked.2.2
      exact ⟨value, reads⟩
    · rintro ⟨value, reads⟩
      exact ⟨_, _, looksUp wanted set reads⟩

/-- The reply of a backend that describes every token as one of Alice's. -/
def describedReply : Reply where
  status := 200
  headers := []
  body := Utf8.encode "\x7b\"AccessorID\":\"alice\",\"SecretID\":\"s\"\x7d"

/-- Where that backend describes tokens. -/
def describedAt : Uri := ⟨some "http", "localhost:4646", ⟨tokenPath, none⟩⟩

/-- A gate that warns of every job, and wants to know who submits it. -/
def watchfulGate : Gateway Unit :=
  { warningGate describedReply with
    pipeline := ⟨[], [{ reminder with resolvesToken := true }]⟩
    identity := some (.ofBackend (warningGate describedReply).network describedAt) }

/-- A request that registers an empty job with a token. -/
def tokenRegistration (value : Bytes) : Incoming :=
  { plainRegistration with headers := [(tokenHeader, value)] }

theorem alice_registers :
    watchfulGate.identity =
        (some describedAt).map (IdentitySource.ofBackend watchfulGate.network) ∧
      ∃ later,
        watchfulGate.record (tokenRegistration (Bytes.ofAscii "secret")) () =
          .identify "secret" (.ok { accessorId := "alice" }) :: later ∧
        Call.AllSee ⟨"", "alice", some { accessorId := "alice" }⟩ later := by
  have source : watchfulGate.identity =
      (some describedAt).map (IdentitySource.ofBackend watchfulGate.network) := rfl
  have reads : (tokenRegistration (Bytes.ofAscii "secret")).headers.ReadsToken
      (Bytes.ofAscii "secret") := ⟨rfl, by decide, by decide⟩
  have described : decodeBytes Identity.decoder describedReply.body =
      .ok { accessorId := "alice", other := [("SecretID", .string "s")] } := by decide +kernel
  obtain ⟨first, _⟩ :=
    readable_tokens_looked_up source (tokenRegistration (Bytes.ofAscii "secret")) ()
  obtain ⟨later, calls, sees⟩ := (first _ _ rfl rfl reads).told _
    ⟨describedReply, rfl, rfl, rfl, described⟩
  exact ⟨source, later, calls, sees⟩

/-- A token that is no visible text: the first and the last octet are letters, the one between them
    is not ASCII. -/
def unreadableToken : Bytes := [0x74, 0xF6, 0x6B]

/-- A token that cannot be read is neither looked up nor refused: the controllers see an unknown
    caller, and the token is sent on with the request. -/
theorem unreadable_token_passes :
    watchfulGate.pipeline.resolvesToken = true ∧
      watchfulGate.identity =
        some (IdentitySource.ofBackend watchfulGate.network describedAt) ∧
      (tokenRegistration unreadableToken).headers.PresentsToken ∧
      ¬ watchfulGate.Vouched (tokenRegistration unreadableToken) () ∧
      (watchfulGate.record (tokenRegistration unreadableToken) ()).filterMap Call.shown? =
        [emptyPayload] ∧
      ∃ out delivery,
        (.forward, out, delivery) ∈
          (watchfulGate.record (tokenRegistration unreadableToken) ()).filterMap Call.sent? ∧
        out.headers.all tokenHeader = [unreadableToken] := by
  have shown : (watchfulGate.record (tokenRegistration unreadableToken) ()).filterMap
      Call.shown? = [emptyPayload] := by decide +kernel
  have sent : (.forward, { sentRegistration with
        headers := [(tokenHeader, unreadableToken), ("content-length", Bytes.ofAscii "10")] },
      .reply describedReply) ∈
        (watchfulGate.record (tokenRegistration unreadableToken) ()).filterMap Call.sent? := by
    decide +kernel
  refine ⟨rfl, rfl, ⟨unreadableToken, by decide, by decide⟩, ?_, shown, _, _, sent, rfl⟩
  rw [vouched_iff]
  rintro (⟨source, token, _, _, carried⟩ | nothing)
  · have unread : (tokenRegistration unreadableToken).headers.token? = none := by decide +kernel
    simp [unread] at carried
  · simp [nothing] at shown

end Gateway
end JobGate
