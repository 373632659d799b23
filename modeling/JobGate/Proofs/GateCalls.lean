import JobGate.Proofs.ControllerCalls

/-!
The calls that a gate makes. `Gateway.watched` is the gate that writes down what it asks of the
identity source, the controllers and the network; watching changes no answer, no count and no
state, and what is written down is `Gateway.calls` (`handle_watched`, `record_eq_calls`). A request
is prepared before anything is sent: no call of preparation is a request to the network
(`kinds_prepareCalls`).
-/
namespace JobGate

variable {σ : Type}

def IdentitySource.watched (source : IdentitySource σ) : IdentitySource (Watched σ) where
  resolve token := watch (fun answer => .identify token answer) (source.resolve token)

def Network.watched (net : Network σ) : Network (Watched σ) where
  dispatch errand request :=
    watch (fun delivery => .send errand request delivery) (net.dispatch errand request)

namespace Call

/-- The mutator's call, if it is one. -/
def mutator? : Call σ → Option (MutatorCall σ)
  | .mutator call => some call
  | _ => none

def validator? : Call σ → Option (ValidatorCall σ)
  | .validator call => some call
  | _ => none

/-- The token that was looked up, if one was. -/
def lookup? : Call σ → Option String
  | .identify token _ => some token
  | _ => none

/-- What the network was handed, if it was. -/
def sent? : Call σ → Option (Errand × Request × Delivery)
  | .send errand request delivery => some (errand, request, delivery)
  | _ => none

end Call

/-- The calls of a request that is sent: none unless its target is absolute, with scheme `http`. -/
def Network.sendCalls (net : Network σ) (errand : Errand) (request : Request) (s : σ) :
    List (Call σ) :=
  if request.uri.isAbsolute && request.uri.scheme == some "http" then
    [.send errand request (net.dispatch errand request s).1]
  else []

theorem Network.send_watched (net : Network σ) (errand : Errand) (request : Request) (s : σ)
    (log : List (Call σ)) :
    net.watched.send errand request (s, log) =
      ((net.send errand request s).1, ((net.send errand request s).2,
        log ++ net.sendCalls errand request s)) := by
  by_cases absolute : request.uri.isAbsolute
  · by_cases http : request.uri.scheme = some "http"
    · simp [Network.send, Network.sendCalls, Network.watched, watch, absolute, http]
    · simp [Network.send, Network.sendCalls, absolute, http]
  · simp [Network.send, Network.sendCalls, absolute]

namespace Gateway

/-- The gate that writes down its calls. -/
def watched (gate : Gateway σ) : Gateway (Watched σ) where
  backend := gate.backend
  timeLimit := gate.timeLimit
  pipeline := gate.pipeline.watched
  network := gate.network.watched
  identity := gate.identity.map IdentitySource.watched
  peer := gate.peer

/-- The calls made to find out who calls. -/
def callerCalls (gate : Gateway σ) (headers : Headers) (s : σ) : List (Call σ) :=
  match (if gate.pipeline.resolvesToken then gate.identity else none), headers.token? with
  | some source, some token => [.identify token (source.resolve token s).1]
  | _, _ => []

def admissionCalls (gate : Gateway σ) (headers : Headers) (body : Bytes) (caller : Caller)
    (s : σ) : List (Call σ) :=
  match openBody headers body with
  | .error _ => []
  | .ok submission => gate.pipeline.reviewCalls ⟨submission.job, some caller⟩ s

def submissionCalls (gate : Gateway σ) (request : Incoming) (caller : Caller) (s : σ) :
    List (Call σ) :=
  match request.body with
  | .error _ => []
  | .ok body => gate.admissionCalls request.headers body caller s

/-- The calls made before anything is sent. -/
def prepareCalls (gate : Gateway σ) (request : Incoming) (s : σ) : List (Call σ) :=
  gate.callerCalls request.headers s ++
    match gate.caller request.headers s with
    | (.error _, _) => []
    | (.ok caller, s) =>
      match Route.ofRequest? request.method request.uri.path with
      | some _ => gate.submissionCalls request caller s
      | none => []

/-- The calls made for a request, in order. -/
def calls (gate : Gateway σ) (request : Incoming) (s : σ) : List (Call σ) :=
  gate.prepareCalls request s ++
    match gate.prepare request s with
    | (⟨.error _, _⟩, _) => []
    | (⟨.ok (out, _), _⟩, s) => gate.network.sendCalls .forward out s

theorem caller_watched (gate : Gateway σ) (headers : Headers) (s : σ) (log : List (Call σ)) :
    gate.watched.caller headers (s, log) =
      ((gate.caller headers s).1, ((gate.caller headers s).2,
        log ++ gate.callerCalls headers s)) := by
  have resolves := resolvesToken_watched gate.pipeline
  by_cases wanted : gate.pipeline.resolvesToken
  · rcases held : gate.identity with _ | source
    · simp [caller, callerCalls, watched, resolves, wanted, held]
    · rcases carried : headers.token? with _ | token
      · simp [caller, callerCalls, watched, resolves, wanted, held, carried]
      · rcases asked : source.resolve token s with ⟨failure | identity, t⟩
        · simp [caller, callerCalls, watched, resolves, wanted, held, carried,
            IdentitySource.watched, watch, asked]
        · simp [caller, callerCalls, watched, resolves, wanted, held, carried,
            IdentitySource.watched, watch, asked]
  · simp [caller, callerCalls, watched, resolves, wanted]

theorem decide_watched (gate : Gateway σ) (route : Route) (payload : Payload) (s : σ)
    (log : List (Call σ)) :
    gate.watched.decide route payload (s, log) =
      ((gate.decide route payload s).1, ((gate.decide route payload s).2,
        log ++ gate.pipeline.reviewCalls payload s)) := by
  have reviewed := gate.pipeline.review_watched payload s log
  have enforced := gate.pipeline.enforce_watched payload s log
  cases route
  · simp [decide, watched, enforced]
  · simp [decide, watched, enforced]
  · simp [decide, watched, reviewed]

@[simp] theorem outgoing_watched (gate : Gateway σ) (request : Incoming) (headers : Headers)
    (body : Except String Bytes) :
    gate.watched.outgoing request headers body = gate.outgoing request headers body := by
  simp only [outgoing, watched]

theorem admission_watched (gate : Gateway σ) (route : Route) (headers : Headers) (body : Bytes)
    (caller : Caller) (s : σ) (log : List (Call σ)) :
    gate.watched.admission route headers body caller (s, log) =
      ((gate.admission route headers body caller s).1,
        ((gate.admission route headers body caller s).2,
          log ++ gate.admissionCalls headers body caller s)) := by
  rcases opened : openBody headers body with fault | submission
  · simp [admission, admissionCalls, opened]
  · have decided := gate.decide_watched route ⟨submission.job, some caller⟩ s log
    rcases ran : gate.decide route ⟨submission.job, some caller⟩ s with
      ⟨⟨refusal | ⟨job, report⟩, events⟩, t⟩
    · simp [admission, admissionCalls, opened, decided, ran]
    · simp [admission, admissionCalls, opened, decided, ran]

theorem prepareSubmission_watched (gate : Gateway σ) (route : Route) (request : Incoming)
    (caller : Caller) (s : σ) (log : List (Call σ)) :
    gate.watched.prepareSubmission route request caller (s, log) =
      ((gate.prepareSubmission route request caller s).1,
        ((gate.prepareSubmission route request caller s).2,
          log ++ gate.submissionCalls request caller s)) := by
  rcases read : request.body with reason | body
  · simp [prepareSubmission, submissionCalls, read]
  · have admitted := gate.admission_watched route request.headers body caller s log
    rcases ran : gate.admission route request.headers body caller s with
      ⟨⟨fault | ⟨admittedBody, report⟩, events⟩, t⟩
    · simp [prepareSubmission, submissionCalls, read, admitted, ran]
    · simp [prepareSubmission, submissionCalls, read, admitted, ran]

theorem prepare_watched (gate : Gateway σ) (request : Incoming) (s : σ) (log : List (Call σ)) :
    gate.watched.prepare request (s, log) =
      ((gate.prepare request s).1, ((gate.prepare request s).2,
        log ++ gate.prepareCalls request s)) := by
  have identified := gate.caller_watched request.headers s log
  rcases found : gate.caller request.headers s with ⟨fault | caller, t⟩
  · simp [prepare, prepareCalls, identified, found]
  · rcases classified : Route.ofRequest? request.method request.uri.path with _ | route
    · simp [prepare, prepareCalls, identified, found, classified]
    · have submitted := gate.prepareSubmission_watched route request caller t
        (log ++ gate.callerCalls request.headers s)
      simp [prepare, prepareCalls, identified, found, classified, submitted]

theorem forward_watched (gate : Gateway σ) (out : Request) (report : Option Report) (s : σ)
    (log : List (Call σ)) :
    gate.watched.forward out report (s, log) =
      ((gate.forward out report s).1, ((gate.forward out report s).2,
        log ++ gate.network.sendCalls .forward out s)) := by
  have sent := gate.network.send_watched .forward out s log
  rcases went : gate.network.send .forward out s with ⟨reply | e | _, t⟩
  all_goals simp [forward, watched, sent, went]

theorem run_watched (gate : Gateway σ) (request : Incoming) (s : σ) (log : List (Call σ)) :
    gate.watched.run request (s, log) =
      ((gate.run request s).1, ((gate.run request s).2, log ++ gate.calls request s)) := by
  have prepared := gate.prepare_watched request s log
  rcases ran : gate.prepare request s with ⟨⟨fault | ⟨out, report⟩, events⟩, t⟩
  · simp [run, calls, prepared, ran]
  · have sent := gate.forward_watched out report t (log ++ gate.prepareCalls request s)
    simp [run, calls, prepared, ran, sent]

/-- Watching a gate changes neither its answer nor the state that it leaves. -/
theorem handle_watched (gate : Gateway σ) (request : Incoming) (s : σ) (log : List (Call σ)) :
    gate.watched.handle request (s, log) =
      ((gate.handle request s).1, ((gate.handle request s).2, log ++ gate.calls request s)) := by
  simp [handle, run_watched]

/-- What a gate writes down when it handles a request. -/
def record (gate : Gateway σ) (request : Incoming) (s : σ) : List (Call σ) :=
  (gate.watched.handle request (s, [])).2.2

theorem record_eq_calls (gate : Gateway σ) (request : Incoming) (s : σ) :
    gate.record request s = gate.calls request s := by
  rw [record, handle_watched, List.nil_append]

/-- At most one token is looked up, and it is that of the request. -/
theorem kinds_callerCalls (gate : Gateway σ) (headers : Headers) (s : σ) :
    (gate.callerCalls headers s).filterMap Call.mutator? = [] ∧
      (gate.callerCalls headers s).filterMap Call.validator? = [] ∧
      (gate.callerCalls headers s).filterMap Call.sent? = [] ∧
      (gate.callerCalls headers s).filterMap Call.lookup? <+: headers.token?.toList := by
  unfold callerCalls
  split
  · rename_i source token _ carried
    simp [Call.mutator?, Call.validator?, Call.sent?, Call.lookup?, carried]
  · simp

theorem kinds_reviewCalls (pipeline : Pipeline σ) (payload : Payload) (s : σ) :
    (pipeline.reviewCalls payload s).filterMap Call.mutator? = pipeline.mutations payload s ∧
      (pipeline.reviewCalls payload s).filterMap Call.validator? = pipeline.judgements payload s ∧
      (pipeline.reviewCalls payload s).filterMap Call.sent? = [] ∧
      (pipeline.reviewCalls payload s).filterMap Call.lookup? = [] := by
  simp [Pipeline.reviewCalls, List.filterMap_append, List.filterMap_map, Function.comp_def,
    Call.mutator?, Call.validator?, Call.sent?, Call.lookup?]

theorem kinds_sendCalls (net : Network σ) (errand : Errand) (request : Request) (s : σ) :
    (net.sendCalls errand request s).filterMap Call.mutator? = [] ∧
      (net.sendCalls errand request s).filterMap Call.validator? = [] ∧
      (net.sendCalls errand request s).filterMap Call.sent? =
        (if request.uri.isAbsolute && request.uri.scheme == some "http" then
          [(errand, request, (net.dispatch errand request s).1)] else []) ∧
      (net.sendCalls errand request s).filterMap Call.lookup? = [] := by
  unfold Network.sendCalls
  split
  · simp [Call.mutator?, Call.validator?, Call.sent?, Call.lookup?]
  · simp

theorem kinds_submissionCalls (gate : Gateway σ) (request : Incoming) (caller : Caller) (s : σ) :
    (gate.submissionCalls request caller s).filterMap Call.sent? = [] ∧
      (gate.submissionCalls request caller s).filterMap Call.lookup? = [] := by
  rcases read : request.body with reason | body
  · simp [submissionCalls, read]
  · rcases opened : openBody request.headers body with fault | submission
    · simp [submissionCalls, admissionCalls, read, opened]
    · obtain ⟨_, _, sent, lookups⟩ :=
        kinds_reviewCalls gate.pipeline ⟨submission.job, some caller⟩ s
      simp [submissionCalls, admissionCalls, read, opened, sent, lookups]

/-- Nothing is sent while a request is prepared, and tokens are looked up only to find out who
    calls. -/
theorem kinds_prepareCalls (gate : Gateway σ) (request : Incoming) (s : σ) :
    (gate.prepareCalls request s).filterMap Call.sent? = [] ∧
      (gate.prepareCalls request s).filterMap Call.lookup? <+: request.headers.token?.toList := by
  obtain ⟨_, _, sent, lookups⟩ := gate.kinds_callerCalls request.headers s
  rcases found : gate.caller request.headers s with ⟨fault | caller, t⟩
  · simp [prepareCalls, found, sent, lookups]
  · rcases classified : Route.ofRequest? request.method request.uri.path with _ | route
    · simp [prepareCalls, found, classified, sent, lookups]
    · obtain ⟨unsent, none⟩ := gate.kinds_submissionCalls request caller t
      simp [prepareCalls, found, classified, sent, lookups, unsent, none]

theorem lookups_calls (gate : Gateway σ) (request : Incoming) (s : σ) :
    (gate.calls request s).filterMap Call.lookup? <+: request.headers.token?.toList := by
  obtain ⟨_, lookups⟩ := gate.kinds_prepareCalls request s
  rcases ran : gate.prepare request s with ⟨⟨fault | ⟨out, report⟩, events⟩, t⟩
  · simp [calls, ran, lookups]
  · obtain ⟨_, _, _, none⟩ := kinds_sendCalls gate.network .forward out t
    simp [calls, ran, lookups, none]

end Gateway
end JobGate
