import JobGate.Proofs.Contacts
import JobGate.Proofs.HeaderAgreement
import JobGate.Proofs.TokenDescriptions
import JobGate.Proofs.TokenLookups

/-!
The secret of a token stays between its caller and the backend. Two requests differ in their tokens
only, and the backend describes both tokens alike but for their secrets. Then the gate finds the
same caller (`caller_swapped`), prepares requests that differ in the token only (`prepare_swapped`)
and gives the same answer (`handle_swapped`). Nobody but the backend can tell the runs apart: not
the controllers, and not whom they ask (`secret_kept`).
-/
namespace JobGate

variable {σ τ : Type}

/-! ## Requests with another token -/

/-- The same request with another token; both tokens can be read, or neither. -/
structure Incoming.SwapsToken (request other : Incoming) : Prop where
  method : request.method = other.method
  uri : request.uri = other.uri
  version : request.version = other.version
  headers : request.headers.AgreeBeyond [tokenHeader] other.headers
  read : request.headers.token?.isSome = other.headers.token?.isSome
  body : request.body = other.body

/-- The same request is sent with another token: with one of the first request received, and with
    one of the other. -/
structure Request.SwapsToken (request other : Incoming) (out also : Request) : Prop where
  method : out.method = also.method
  uri : out.uri = also.uri
  headers : out.headers.AgreeBeyond [tokenHeader] also.headers
  tokens : out.headers.all tokenHeader ⊆ request.headers.all tokenHeader
  others : also.headers.all tokenHeader ⊆ other.headers.all tokenHeader
  body : out.body = also.body
  bodyFault : out.bodyFault = also.bodyFault

/-- The same comes back for two tokens, or two descriptions that differ in the secret only. -/
inductive Delivery.SameButSecret : Delivery → Delivery → Prop where
  | same (delivery : Delivery) : SameButSecret delivery delivery
  | described {reply back : Reply} {described also : Identity} {pairs others : Members}
      (describes : reply.Describes described) (redescribes : back.Describes also)
      (paired : decodeBytes Decoder.pairs reply.body = .ok pairs)
      (repaired : decodeBytes Decoder.pairs back.body = .ok others)
      (differ : Members.DifferAt Identity.secretMember pairs others) :
      SameButSecret (.reply reply) (.reply back)

theorem Delivery.SameButSecret.identity {delivery back : Delivery}
    (same : delivery.SameButSecret back) : delivery.identity = back.identity := by
  cases same with
  | same => rfl
  | described describes redescribes paired repaired differ =>
    rw [Delivery.identity_of_describes ⟨_, rfl, describes⟩,
      Delivery.identity_of_describes ⟨_, rfl, redescribes⟩,
      Identity.withoutSecret_congr describes.decoded redescribes.decoded paired repaired differ]

/-- What a network makes of two requests to one target is as alike as what they are dispatched to. -/
theorem Network.send_related {net : Network σ} (related : Delivery → Delivery → Prop)
    {alike : σ → σ → Prop} {errand : Errand} {out also : Request} {s t : σ}
    (refl : ∀ delivery, related delivery delivery) (target : out.uri = also.uri)
    (same : alike s t)
    (dispatched : related (net.dispatch errand out s).1 (net.dispatch errand also t).1 ∧
      alike (net.dispatch errand out s).2 (net.dispatch errand also t).2) :
    related (net.send errand out s).1 (net.send errand also t).1 ∧
      alike (net.send errand out s).2 (net.send errand also t).2 := by
  rw [send, send, target]
  split
  · exact ⟨refl _, same⟩
  · split
    · exact ⟨refl _, same⟩
    · exact dispatched

namespace Gateway

/-- Two requests are handled with the same counted, and leave states that are alike; what is made of
    them is related, or both fail alike. -/
structure HandledAlike {α : Type} (related : α → α → Prop) (alike : σ → σ → Prop)
    (x y : Handled α × σ) : Prop where
  result : EndsAlike related x.1.result y.1.result
  events : x.1.events = y.1.events
  state : alike x.2 y.2

/-- The same is prepared with another token, for the same report. -/
def SwapsPrepared (request other : Incoming) (made remade : Request × Option Report) : Prop :=
  made.1.SwapsToken request other remade.1 ∧ made.2 = remade.2

/-- Nobody around the gate tells two requests apart that differ in the token: the controllers are
    steady, whose the tokens are is answered alike, and so is what is forwarded. -/
structure Discreet (gate : Gateway σ) (alike : σ → σ → Prop) (request other : Incoming) : Prop where
  pipeline : gate.pipeline.AllSteady alike
  lookup : ∀ source token secret s t, gate.LooksUp request.headers source token →
    gate.LooksUp other.headers source secret → alike s t →
      (source.resolve token s).1 = (source.resolve secret t).1 ∧
        alike (source.resolve token s).2 (source.resolve secret t).2
  forward : ∀ out also s t, out.SwapsToken request other also → alike s t →
    (gate.network.dispatch .forward out s).1 = (gate.network.dispatch .forward also t).1 ∧
      alike (gate.network.dispatch .forward out s).2 (gate.network.dispatch .forward also t).2

section
variable {gate : Gateway σ} {alike : σ → σ → Prop} {request other : Incoming}
  (discreet : gate.Discreet alike request other) (swaps : request.SwapsToken other)
include discreet swaps

theorem caller_swapped : ∀ s t, alike s t →
    (gate.caller request.headers s).1 = (gate.caller other.headers t).1 ∧
      alike (gate.caller request.headers s).2 (gate.caller other.headers t).2 := by
  intro s t same
  have address := swaps.headers.clientAddress (by decide) gate.peer
  -- either token is looked up or none is, as both can be read or neither
  by_cases asked : ∃ source token, gate.LooksUp request.headers source token
  · obtain ⟨source, token, asked⟩ := asked
    have carried : other.headers.token?.isSome := by rw [← swaps.read, asked.2.2]; rfl
    obtain ⟨secret, carried⟩ := Option.isSome_iff_exists.mp carried
    have also : gate.LooksUp other.headers source secret := ⟨asked.1, asked.2.1, carried⟩
    obtain ⟨answer, after⟩ := discreet.lookup source token secret s t asked also same
    rw [asked.caller s, also.caller t]
    rcases here : source.resolve token s with ⟨result, s'⟩
    rcases there : source.resolve secret t with ⟨result', t'⟩
    rw [here, there] at answer after
    obtain rfl : result = result' := answer
    cases result with
    | error failure => exact ⟨rfl, after⟩
    | ok identity => exact ⟨by simp [address], after⟩
  · have idle : ∀ source token, ¬ gate.LooksUp request.headers source token :=
      fun source token looksUp => asked ⟨source, token, looksUp⟩
    have also : ∀ source token, ¬ gate.LooksUp other.headers source token := by
      rintro source token ⟨wanted, held, carried⟩
      have some : request.headers.token?.isSome := by rw [swaps.read, carried]; rfl
      obtain ⟨token, carried⟩ := Option.isSome_iff_exists.mp some
      exact idle source token ⟨wanted, held, carried⟩
    rw [(caller_unasked idle s).1, (caller_unasked also t).1, address]
    exact ⟨rfl, same⟩

omit discreet in
theorem outgoing_swapped (gate : Gateway σ) {a b : Headers} (agree : a.AgreeBeyond [tokenHeader] b)
    (tokens : a.all tokenHeader = request.headers.all tokenHeader)
    (others : b.all tokenHeader = other.headers.all tokenHeader) (body : Except String Bytes) :
    EndsAlike (Request.SwapsToken request other) (gate.outgoing request a body)
      (gate.outgoing other b body) := by
  have passed (headers : Headers) : (forwardedHeaders gate.peer headers).all tokenHeader ⊆
      headers.all tokenHeader := by
    rw [all_forwardedHeaders (.inl (by decide))]
    split
    · exact List.nil_subset _
    · exact List.Subset.refl _
  rcases found : gate.backend.forwardTarget other.uri.target? with e | uri
  · simp only [outgoing, swaps.uri, found]
    exact .failed _
  · simp only [outgoing, swaps.uri, swaps.method, found]
    exact .done ⟨rfl, rfl, agree.forwardedHeaders (by decide) gate.peer, tokens ▸ passed a,
      others ▸ passed b, rfl, rfl⟩

omit discreet in
theorem handledAlike_outgoing {a b : Headers} (agree : a.AgreeBeyond [tokenHeader] b)
    (tokens : a.all tokenHeader = request.headers.all tokenHeader)
    (others : b.all tokenHeader = other.headers.all tokenHeader) (body : Except String Bytes)
    (report : Option Report) (events : List Event) {s t : σ} (same : alike s t) :
    HandledAlike (SwapsPrepared request other) alike
      (⟨(gate.outgoing request a body).map fun out => (out, report), events⟩, s)
      (⟨(gate.outgoing other b body).map fun out => (out, report), events⟩, t) := by
  have made := gate.outgoing_swapped swaps agree tokens others body
  generalize gate.outgoing request a body = one, gate.outgoing other b body = two at made
  exact ⟨made.map fun _ _ both => ⟨both, rfl⟩, rfl, same⟩

theorem prepareSubmission_swapped (route : Route) (caller : Caller) {s t : σ} (same : alike s t) :
    HandledAlike (SwapsPrepared request other) alike
        (gate.prepareSubmission route request caller s)
        (gate.prepareSubmission route other caller t) ∧
      gate.submissionCalls request caller s = gate.submissionCalls other caller t := by
  rcases read : other.body with reason | body
  · simp only [prepareSubmission, submissionCalls, swaps.body, read, and_true]
    exact ⟨.failed _, rfl, same⟩
  · have opened : openBody request.headers body = openBody other.headers body := by
      rw [openBody, openBody, swaps.headers.declaresGzip (by decide)]
    rcases found : openBody other.headers body with fault | submission
    · simp only [prepareSubmission, submissionCalls, admission, admissionCalls, swaps.body, read,
        opened, found, and_true]
      exact ⟨.failed _, rfl, same⟩
    · have calls := Pipeline.reviewCalls_steady discreet.pipeline ⟨submission.job, some caller⟩ same
      obtain ⟨⟨decision, events⟩, s', t', here, there, after⟩ :=
        (decide_steady discreet.pipeline route ⟨submission.job, some caller⟩).results same
      rcases decision with refusal | ⟨job, report⟩
      · simp only [prepareSubmission, submissionCalls, admission, admissionCalls, swaps.body, read,
          opened, found, here, there, calls, and_true]
        exact ⟨.failed _, rfl, after⟩
      · have sealed : sealBody request.headers { submission with job } =
            sealBody other.headers { submission with job } := by
          rw [sealBody, sealBody, swaps.headers.declaresGzip (by decide)]
        simp only [prepareSubmission, submissionCalls, admission, admissionCalls, swaps.body, read,
          opened, found, here, there, calls, sealed, and_true]
        have kept (headers : Headers) (length : Nat) :
            (headers.announceLength length).all tokenHeader = headers.all tokenHeader := by
          rw [Headers.all_announceLength, if_neg (by decide), if_neg (by decide)]
        exact handledAlike_outgoing swaps (swaps.headers.announceLength (.inl rfl)) (kept _ _)
          (kept _ _) _ _ _ after

/-- Requests that differ in the token are prepared to requests that do, and the controllers are
    called alike. -/
theorem prepare_swapped {s t : σ} (same : alike s t) :
    HandledAlike (SwapsPrepared request other) alike (gate.prepare request s)
      (gate.prepare other t) := by
  obtain ⟨caller, after⟩ := caller_swapped discreet swaps s t same
  rcases here : gate.caller request.headers s with ⟨found, s'⟩
  rcases there : gate.caller other.headers t with ⟨found', t'⟩
  rw [here, there] at caller after
  obtain rfl : found = found' := caller
  rcases found with fault | caller
  · simp only [prepare, here, there]
    exact ⟨.failed _, rfl, after⟩
  · simp only [prepare, here, there, swaps.method, swaps.uri]
    rcases Route.ofRequest? other.method other.uri.path with _ | route
    · rw [swaps.body]
      exact handledAlike_outgoing swaps swaps.headers rfl rfl _ _ _ after
    · exact (prepareSubmission_swapped discreet swaps route caller after).1

omit swaps in
theorem forward_swapped {out also : Request} (swapped : out.SwapsToken request other also)
    (report : Option Report) {s t : σ} (same : alike s t) :
    (gate.forward out report s).1 = (gate.forward also report t).1 ∧
      alike (gate.forward out report s).2 (gate.forward also report t).2 := by
  obtain ⟨delivered, after⟩ := Network.send_related Eq (fun _ => rfl) swapped.uri same
    (discreet.forward out also s t swapped same)
  rcases here : gate.network.send .forward out s with ⟨delivery, s'⟩
  rcases there : gate.network.send .forward also t with ⟨back, t'⟩
  rw [here, there] at delivered after
  obtain rfl : delivery = back := delivered
  cases delivery <;> simpa [forward, here, there] using after

theorem handle_swapped {s t : σ} (same : alike s t) :
    (gate.handle request s).1 = (gate.handle other t).1 ∧
      alike (gate.handle request s).2 (gate.handle other t).2 := by
  obtain ⟨result, events, after⟩ := prepare_swapped discreet swaps same
  rcases here : gate.prepare request s with ⟨⟨made, counted⟩, s'⟩
  rcases there : gate.prepare other t with ⟨⟨remade, recounted⟩, t'⟩
  rw [here, there] at result events after
  obtain rfl : counted = recounted := events
  cases result with
  | failed fault => simpa [handle, run, here, there] using after
  | @done made remade both =>
    obtain ⟨out, report⟩ := made
    obtain ⟨also, report'⟩ := remade
    obtain ⟨swapped, rfl⟩ := both
    obtain ⟨answer, last⟩ := forward_swapped discreet swapped report after
    simpa [handle, run, here, there, answer, swaps.version] using last

/-- Controllers are called alike, whatever is read off their calls. -/
theorem record_swapped {β : Type} {read : Call σ → Option β}
    (lookups : ∀ token answer, read (.identify token answer) = none)
    (sends : ∀ errand out delivery, read (.send errand out delivery) = none) {s t : σ}
    (same : alike s t) :
    (gate.record request s).filterMap read = (gate.record other t).filterMap read := by
  have asking (headers : Headers) (s : σ) : (gate.callerCalls headers s).filterMap read = [] := by
    unfold callerCalls
    split <;> simp [lookups]
  have sending (out : Request) (s : σ) :
      (gate.network.sendCalls .forward out s).filterMap read = [] := by
    unfold Network.sendCalls
    split <;> simp [sends]
  -- only what controllers are asked is read off
  have forwarding (request : Incoming) (s : σ) :
      (gate.record request s).filterMap read = (gate.prepareCalls request s).filterMap read := by
    rw [record_eq_calls, Gateway.calls, List.filterMap_append]
    rcases gate.prepare request s with ⟨⟨fault | ⟨out, report⟩, events⟩, u⟩ <;> simp [sending]
  rw [forwarding, forwarding, prepareCalls, prepareCalls, List.filterMap_append,
    List.filterMap_append, asking, asking]
  obtain ⟨caller, after⟩ := caller_swapped discreet swaps s t same
  rcases here : gate.caller request.headers s with ⟨found, s'⟩
  rcases there : gate.caller other.headers t with ⟨found', t'⟩
  rw [here, there] at caller after
  obtain rfl : found = found' := caller
  rcases found with fault | caller
  · rfl
  · simp only [swaps.method, swaps.uri]
    rcases Route.ofRequest? other.method other.uri.path with _ | route
    · rfl
    · simp only [(prepareSubmission_swapped discreet swaps route caller after).2]

end

theorem no_secret_shown {gate : Gateway σ} {net : Network σ} {target : Option Uri}
    (source : gate.identity = target.map (IdentitySource.ofBackend net)) (request : Incoming)
    (s : σ) :
    ∀ call ∈ gate.record request s, ∀ payload caller identity, call.shown? = some payload →
      payload.caller = some caller → caller.identity = some identity →
        ∃ members : Members, identity.toJson = .object members ∧
          members.get? Identity.secretMember = none := by
  intro call made payload caller identity shown called known
  rcases gate.identifies_or_fails request.headers s with ⟨found, t, identified⟩ |
    ⟨source, token, failure, t, asked, failed⟩
  · obtain ⟨later, calls, sees⟩ := identified.calls
    rw [calls] at made
    rcases List.mem_append.mp made with early | late
    · -- a lookup shows nobody anything
      unfold callerCalls at early
      split at early
      · obtain rfl := List.mem_singleton.mp early
        cases shown
      · cases early
    · obtain rfl : caller = found :=
        Option.some.inj (called.symm.trans ((sees call late).2 payload shown))
      cases identified with
      | unasked idle => cases known
      | @answered asker token held _ asked resolved =>
        obtain rfl := Option.some.inj known
        rw [asked.2.1] at source
        obtain ⟨uri, _, rfl⟩ := Option.map_eq_some_iff.mp source.symm
        obtain ⟨value, reads, rfl⟩ := (request.headers.token?_eq_some_iff _).mp asked.2.2
        rw [IdentitySource.resolve_eq (headerValue?_visibleText reads.visible)] at resolved
        obtain ⟨described, ⟨reply, _, describes⟩, rfl⟩ :=
          Delivery.describes_of_identity (congrArg (·.1) resolved)
        exact Identity.toJson_withoutSecret describes.decoded
  · rw [(asked.fails (congrArg (·.1) failed)).1] at made
    obtain rfl := List.mem_singleton.mp made
    cases shown

end Gateway

/-! ## Those around the gate -/

/-- The same is said, or the same with another token, and that to the backend. -/
inductive Contact.Alike (request other : Incoming) : Contact → Contact → Prop where
  | same (contact : Contact) : Alike request other contact contact
  | swapped {errand : Errand} {out also : Request} (backend : errand ≠ .consult)
      (swaps : out.SwapsToken request other also) :
      Alike request other (.request errand out) (.request errand also)

/-- The states are alike, and so is what was said so far. -/
def Tapped.Alike (request other : Incoming) (alike : τ → τ → Prop) (w v : Tapped τ) : Prop :=
  alike w.1 v.1 ∧ List.Forall₂ (Contact.Alike request other) w.2 v.2

/-- In states that are alike, the network tells the tokens of two requests apart by their secrets
    only, and answers alike what is forwarded with them. -/
structure Network.TellsSecretOnly (net : Network τ) (alike : τ → τ → Prop)
    (request other : Incoming) : Prop where
  lookup : ∀ uri value secret s t, request.headers.ReadsToken value →
    other.headers.ReadsToken secret → alike s t →
      (net.dispatch .identify (identityRequest uri value) s).1.SameButSecret
          (net.dispatch .identify (identityRequest uri secret) t).1 ∧
        alike (net.dispatch .identify (identityRequest uri value) s).2
          (net.dispatch .identify (identityRequest uri secret) t).2
  forward : ∀ out also s t, out.SwapsToken request other also → alike s t →
    (net.dispatch .forward out s).1 = (net.dispatch .forward also t).1 ∧
      alike (net.dispatch .forward out s).2 (net.dispatch .forward also t).2

section
variable {alike : τ → τ → Prop} {request other : Incoming}

theorem tap_steady {α : Type} {action : τ → α × τ} (steady : Steady alike action)
    (contact : Contact) :
    Steady (Tapped.Alike request other alike) (tap contact action) := by
  rintro ⟨s, said⟩ ⟨t, resaid⟩ ⟨same, before⟩
  obtain ⟨result, after⟩ := steady s t same
  exact ⟨result, after, List.rel_append before (.cons (.same contact) .nil)⟩

theorem identityRequest_swapped (uri : Uri) {value secret : Bytes}
    (reads : request.headers.ReadsToken value) (also : other.headers.ReadsToken secret) :
    (identityRequest uri value).SwapsToken request other (identityRequest uri secret) where
  method := rfl
  uri := rfl
  headers := by
    intro name other
    have differs : name ≠ tokenHeader := by simpa using other
    simp [identityRequest, Headers.all_singleton, differs]
  tokens := by
    have first := List.mem_of_mem_head? reads.first
    simpa [identityRequest, Headers.all_singleton] using first
  others := by
    have first := List.mem_of_mem_head? also.first
    simpa [identityRequest, Headers.all_singleton] using first
  body := rfl
  bodyFault := rfl

theorem discreet_tapped {gate : Gateway (Tapped τ)} {net : Network τ} {target : Option Uri}
    (network : gate.network = net.tapped)
    (source : gate.identity = target.map (IdentitySource.ofBackend net.tapped))
    (steady : gate.pipeline.AllSteady (Tapped.Alike request other alike))
    (tells : net.TellsSecretOnly alike request other) :
    gate.Discreet (Tapped.Alike request other alike) request other where
  pipeline := steady
  lookup := by
    rintro asker token secret ⟨s, said⟩ ⟨t, resaid⟩ asked also ⟨same, before⟩
    rw [asked.2.1] at source
    obtain ⟨uri, _, rfl⟩ := Option.map_eq_some_iff.mp source.symm
    obtain ⟨value, reads, rfl⟩ := (request.headers.token?_eq_some_iff _).mp asked.2.2
    obtain ⟨value', reads', rfl⟩ := (other.headers.token?_eq_some_iff _).mp also.2.2
    rw [IdentitySource.resolve_eq (headerValue?_visibleText reads.visible),
      IdentitySource.resolve_eq (headerValue?_visibleText reads'.visible)]
    -- the descriptions differ in the secret, which is gone when the identity is read
    obtain ⟨described, after⟩ := tells.lookup uri value value' s t reads reads' same
    have start : Tapped.Alike request other alike (s, said) (t, resaid) := ⟨same, before⟩
    have swapped := identityRequest_swapped uri reads reads'
    exact Network.send_related (fun came back => came.identity = back.identity) (fun _ => rfl) rfl
      start
      ⟨described.identity, after, List.rel_append before (.cons (.swapped nofun swapped) .nil)⟩
  forward := by
    rintro out also ⟨s, said⟩ ⟨t, resaid⟩ swapped ⟨same, before⟩
    obtain ⟨delivered, after⟩ := tells.forward out also s t swapped same
    rw [network]
    exact ⟨delivered, after, List.rel_append before (.cons (.swapped nofun swapped) .nil)⟩

end

namespace Gateway

/-- A gate keeps the secret of a token. Two runs with different tokens are the same to all but the
    backend: mutators and validators are shown the same and answer the same; policies evaluate the
    same documents, and webhooks and verifiers receive the same requests; what the backend receives
    differs in the token only; and the caller gets the same answer. No document of an identity that
    is shown to a controller has a member for the secret. -/
structure KeepsSecret (gate : Gateway (Tapped τ)) (request other : Incoming) (w v : Tapped τ) :
    Prop where
  mutators : (gate.record request w).filterMap Call.mutator? =
    (gate.record other v).filterMap Call.mutator?
  validators : (gate.record request w).filterMap Call.validator? =
    (gate.record other v).filterMap Call.validator?
  said : List.Forall₂ (Contact.Alike request other) (gate.handle request w).2.2
    (gate.handle other v).2.2
  answer : (gate.handle request w).1 = (gate.handle other v).1
  hidden : ∀ call ∈ gate.record request w, ∀ payload caller identity,
    call.shown? = some payload → payload.caller = some caller → caller.identity = some identity →
      ∃ members : Members, identity.toJson = .object members ∧
        members.get? Identity.secretMember = none

/-- Nobody but the backend can tell runs apart that differ in the token and in the secret with which
    the backend describes it, whatever the pipeline: controllers that cannot tell the states apart
    from which the runs start learn nothing else. Built controllers are such as far as the webhooks
    and policies are that they ask (`Pipeline.build_steady`). -/
theorem secret_kept {gate : Gateway (Tapped τ)} {net : Network τ} {target : Option Uri}
    {alike : τ → τ → Prop} {request other : Incoming} {w v : Tapped τ}
    (network : gate.network = net.tapped)
    (source : gate.identity = target.map (IdentitySource.ofBackend net.tapped))
    (steady : gate.pipeline.AllSteady (Tapped.Alike request other alike))
    (tells : net.TellsSecretOnly alike request other) (swaps : request.SwapsToken other)
    (same : Tapped.Alike request other alike w v) : gate.KeepsSecret request other w v := by
  have discreet := discreet_tapped network source steady tells
  obtain ⟨answer, _, said⟩ := handle_swapped discreet swaps same
  exact {
    mutators := record_swapped discreet swaps (fun _ _ => rfl) (fun _ _ _ => rfl) same
    validators := record_swapped discreet swaps (fun _ _ => rfl) (fun _ _ _ => rfl) same
    said
    answer
    hidden := gate.no_secret_shown source request w }

/-- The description of one of Alice's tokens, with the secret in front. -/
def descriptionOf (secret : Bytes) : Bytes :=
  Utf8.encode "\x7b\"SecretID\":\"" ++ secret ++
    Utf8.encode "\",\"AccessorID\":\"alice\"\x7d"

/-- A world in which all tokens are Alice's, and everything but lookups is answered with an empty
    object. -/
def talkative : Network Unit where
  dispatch errand request s :=
    let body := match errand with
      | .identify => descriptionOf (request.headers.all tokenHeader).flatten
      | _ => Utf8.encode "\x7b\x7d"
    (.reply { status := 200, headers := [], body }, s)

def silentPolicy : PolicyEngine Unit where
  eval _ s := (.ok [[]], s)

/-- A gate that asks a policy, a webhook and a verifier of images in that world. -/
def curiousGate : Gateway (Tapped Unit) where
  backend := watchfulGate.backend
  timeLimit := watchfulGate.timeLimit
  pipeline :=
    ⟨[silentPolicy.tapped.mutator "owner" true,
        patchWebhook talkative.tapped "hook" false hookEndpoint],
      [imageCheck "images" false (.overNetwork talkative.tapped hookEndpoint)]⟩
  network := talkative.tapped
  identity := some (.ofBackend talkative.tapped describedAt)

/-- The world tells the tokens of two registrations apart by their secrets only. -/
theorem talkative_tells : talkative.TellsSecretOnly Eq (tokenRegistration (Bytes.ofAscii "one"))
    (tokenRegistration (Bytes.ofAscii "two")) where
  lookup uri value secret s t reads also same := by
    obtain rfl : Bytes.ofAscii "one" = value := Option.some.inj reads.first
    obtain rfl : Bytes.ofAscii "two" = secret := Option.some.inj also.first
    refine ⟨?_, rfl⟩
    have first : decodeBytes Identity.decoder (descriptionOf (Bytes.ofAscii "one")) =
        .ok { accessorId := "alice", other := [("SecretID", .string "one")] } := by decide +kernel
    have second : decodeBytes Identity.decoder (descriptionOf (Bytes.ofAscii "two")) =
        .ok { accessorId := "alice", other := [("SecretID", .string "two")] } := by decide +kernel
    exact .described ⟨rfl, rfl, first⟩ ⟨rfl, rfl, second⟩
      (show decodeBytes Decoder.pairs (descriptionOf (Bytes.ofAscii "one")) =
        .ok [("SecretID", .string "one"), ("AccessorID", .string "alice")] by decide +kernel)
      (show decodeBytes Decoder.pairs (descriptionOf (Bytes.ofAscii "two")) =
        .ok [("SecretID", .string "two"), ("AccessorID", .string "alice")] by decide +kernel)
      (.cons nofun (.cons (fun _ => rfl) .nil))
  forward out also s t swapped same := ⟨rfl, rfl⟩

theorem curiousGate_steady (request other : Incoming) :
    curiousGate.pipeline.AllSteady (Tapped.Alike request other Eq) where
  mutators := by
    intro m member payload
    have consults (request' : Request) : Steady (Tapped.Alike request other Eq)
        (talkative.tapped.dispatch .consult request') := tap_steady (steady_eq _) _
    rcases List.mem_pair.mp member with rfl | rfl
    · exact PolicyEngine.mutator_steady (fun document => tap_steady (steady_eq _) _) "owner" true
        payload
    · exact patchWebhook_steady consults hookEndpoint "hook" false payload
  validators := by
    intro v member payload
    obtain rfl := List.mem_singleton.mp member
    exact imageCheck_steady (fun image => Verifier.overNetwork_steady
      (fun _ => tap_steady (steady_eq _) _) hookEndpoint image) "images" false payload

theorem alice_keeps_her_secrets :
    curiousGate.network = talkative.tapped ∧
      curiousGate.identity =
        (some describedAt).map (IdentitySource.ofBackend talkative.tapped) ∧
      curiousGate.pipeline.AllSteady (Tapped.Alike (tokenRegistration (Bytes.ofAscii "one"))
        (tokenRegistration (Bytes.ofAscii "two")) Eq) ∧
      talkative.TellsSecretOnly Eq (tokenRegistration (Bytes.ofAscii "one"))
        (tokenRegistration (Bytes.ofAscii "two")) ∧
      (tokenRegistration (Bytes.ofAscii "one")).SwapsToken
        (tokenRegistration (Bytes.ofAscii "two")) ∧
      curiousGate.KeepsSecret (tokenRegistration (Bytes.ofAscii "one"))
        (tokenRegistration (Bytes.ofAscii "two")) ((), []) ((), []) := by
  have swaps : (tokenRegistration (Bytes.ofAscii "one")).SwapsToken
      (tokenRegistration (Bytes.ofAscii "two")) := by
    refine ⟨rfl, rfl, rfl, ?_, by decide +kernel, rfl⟩
    intro name other
    have differs : name ≠ tokenHeader := by simpa using other
    simp [tokenRegistration, Headers.all_singleton, differs]
  have steady := curiousGate_steady (tokenRegistration (Bytes.ofAscii "one"))
    (tokenRegistration (Bytes.ofAscii "two"))
  have source : curiousGate.identity =
      (some describedAt).map (IdentitySource.ofBackend talkative.tapped) := rfl
  exact ⟨rfl, source, steady, talkative_tells, swaps,
    secret_kept rfl source steady talkative_tells swaps ⟨rfl, .nil⟩⟩

end Gateway
end JobGate
