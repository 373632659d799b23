import JobGate.Proofs.AddressTexts
import JobGate.Proofs.TokenLookups

/-!
The chain of addresses that a request came through. A request is sent with one line of it: the first
line received, and the other end of the connection behind it (`Gateway.line_of_sent`). So all
entries are kept just if there was one line at most (`Gateway.chain_kept_iff`). Whoever looks for
the client in what is sent finds the one that the controllers were told of, unless the message names
the chain as concerning one connection only (`Gateway.client_agreed`).
-/
namespace JobGate

/-- The text can be read off a line. -/
def Readable (text : List Char) : Prop := ∃ line, visibleText? line = some text

theorem Readable.append {a b : List Char} (front : Readable a) (back : Readable b) :
    Readable (a ++ b) := by
  obtain ⟨first, read⟩ := front
  obtain ⟨second, readBack⟩ := back
  obtain ⟨visible, rfl⟩ := Headers.visibleText?_eq_some_iff.mp read
  obtain ⟨visibleBack, rfl⟩ := Headers.visibleText?_eq_some_iff.mp readBack
  refine ⟨first ++ second, Headers.visibleText?_eq_some_iff.mpr ⟨?_, ?_⟩⟩
  · rw [List.all_append, visible, visibleBack, Bool.and_self]
  · exact List.map_append.symm

/-- A text that can be read off some line can be read off the line that it is written to. -/
theorem Readable.written {s : String} (readable : Readable s.toList) :
    visibleText? (Bytes.ofAscii s) = some s.toList := by
  obtain ⟨line, read⟩ := readable
  obtain ⟨_, same⟩ := Headers.visibleText?_eq_some_iff.mp read
  rw [Bytes.ofAscii, same, Bytes.octets_toLatin1, read, same]

namespace HostAddress

theorem readable_text (host : HostAddress) : Readable host.text.toList := by
  have each : textChars.all (fun c => isVisibleOctet c.toNat.toUInt8 && c.toNat < 256) = true := by
    decide
  have visible (c : Char) (inside : c ∈ host.text.toList) :
      isVisibleOctet c.toNat.toUInt8 = true ∧ c.toNat < 256 := by
    simpa using List.all_eq_true.mp each c (spelt_text host c inside)
  refine ⟨Bytes.ofAscii host.text, Headers.visibleText?_eq_some_iff.mpr ⟨?_, ?_⟩⟩
  · rw [Bytes.ofAscii, List.all_map, List.all_eq_true]
    exact fun c inside => (visible c inside).1
  · exact (Bytes.toLatin1_octets fun c inside => (visible c inside).2).symm

theorem solid_text (host : HostAddress) : Solid host.text.toList := by
  have each : textChars.all (fun c => !isBlank c && c != ',') = true := by decide
  intro c inside
  simpa using List.all_eq_true.mp each c (spelt_text host c inside)

end HostAddress

namespace Headers

def firstEntries (headers : Headers) : List (List Char) :=
  ((headers.firstText? forwardingHeader).map commaEntries).getD []

variable {headers : Headers} (host : HostAddress)

theorem readable_extendedChain (headers : Headers) :
    Readable (headers.extendedChain host.text).toList := by
  rw [extendedChain]
  rcases first : headers.firstText? forwardingHeader with _ | earlier
  · exact host.readable_text
  · obtain ⟨line, _, read⟩ := Option.bind_eq_some_iff.mp first
    have comma : Readable ", ".toList := ⟨Bytes.ofAscii ", ", by decide⟩
    simp only [String.toList_append, String.toList_ofList]
    exact (Readable.append ⟨line, read⟩ comma).append host.readable_text

theorem commaEntries_extendedChain (headers : Headers) :
    commaEntries (headers.extendedChain host.text).toList =
      headers.firstEntries ++ [host.text.toList] := by
  rw [extendedChain, firstEntries]
  rcases headers.firstText? forwardingHeader with _ | earlier
  · have single : commaEntries ([] ++ host.text.toList) = [host.text.toList] :=
      commaEntries_single host.solid_text (by simp)
    exact single
  · simp only [String.toList_append, String.toList_ofList]
    exact commaEntries_append host.solid_text earlier

/-- The address of the client is the first entry, unless that is empty. -/
theorem clientAddress_of_firstEntries {entry : List Char} {rest : List (List Char)}
    (begins : headers.firstEntries = entry :: rest) (filled : entry ≠ [])
    (peer : Option SocketAddress) : headers.clientAddress peer = String.ofList entry := by
  have client : headers.forwardedClient? = some (String.ofList entry) := by
    rw [firstEntries] at begins
    rcases first : headers.firstText? forwardingHeader with _ | chain
    · simp [first] at begins
    · have entries : commaEntries chain = entry :: rest := by simpa [first] using begins
      simp [forwardedClient?, first, entries, filled]
  simp [clientAddress, client]

theorem clientAddress_of_firstEntries_nil (none : headers.firstEntries = [])
    (peer : SocketAddress) : headers.clientAddress (some peer) = peer.host.text := by
  rw [firstEntries] at none
  rcases first : headers.firstText? forwardingHeader with _ | chain
  · simp [clientAddress, forwardedClient?, first]
  · rw [first] at none
    exact absurd none (commaEntries_ne_nil chain)

theorem firstEntries_endToEnd (unnamed : ¬ headers.Names forwardingHeader) :
    headers.endToEnd.firstEntries = headers.firstEntries := by
  have same : headers.endToEnd.all forwardingHeader = headers.all forwardingHeader := by
    refine (strippedOf_endToEnd headers).others _ ?_
    rintro (always | named)
    · exact absurd always (by decide)
    · exact unnamed named
  rw [firstEntries, firstEntries, firstText?_congr same]

theorem firstEntries_endToEnd_of_names (named : headers.Names forwardingHeader) :
    headers.endToEnd.firstEntries = [] := by
  have dropped := (strippedOf_endToEnd headers).dropped _ (.inr named)
  simp [firstEntries, firstText?, first?, dropped]

/-- Where all lines can be read, the first of them holds all entries just if it is the only one:
    even an empty line has an entry. -/
theorem firstEntries_eq_entries_iff
    (readable : ∀ line ∈ headers.all forwardingHeader, line.all isVisibleOctet = true) :
    headers.firstEntries = headers.entries forwardingHeader ↔
      (headers.all forwardingHeader).length ≤ 1 := by
  rw [firstEntries, firstText?, first?, entries]
  generalize headers.all forwardingHeader = lines at readable ⊢
  rcases lines with _ | ⟨first, others⟩
  · simp
  · have read (line : Bytes) (there : line ∈ first :: others) :
        visibleText? line = some (Bytes.toLatin1 line) :=
      visibleText?_eq_some_iff.mpr ⟨readable line there, rfl⟩
    cases others with
    | nil => simp [read first (.head _)]
    | cons next more =>
      have some := commaEntries_ne_nil (Bytes.toLatin1 next)
      simp [read first (.head _), read next (.tail _ (.head _)), some]

end Headers

namespace Gateway

variable {σ : Type}

section
variable {gate : Gateway σ} {request : Incoming} {s : σ} {peer : SocketAddress} {errand : Errand}
  {out : Request} {delivery : Delivery}

/-- A request is sent with one line of the chain: the first line of what may be passed on, and the
    other end of the connection behind it. -/
theorem line_of_sent (known : gate.peer = some peer)
    (sent : (errand, out, delivery) ∈ (gate.record request s).filterMap Call.sent?) :
    out.headers.all forwardingHeader =
      [Bytes.ofAscii (request.headers.endToEnd.extendedChain peer.host.text)] := by
  obtain ⟨report, handed⟩ := handsOver_of_sent sent
  obtain ⟨headers, body, made, framed⟩ := outgoing_of_handsOver handed
  obtain ⟨_, _, passed, _⟩ := outgoing_ok made
  rw [passed, known, all_forwardedHeaders_chain]
  rcases framed with rfl | ⟨length, rfl⟩
  · rfl
  · have line : (request.headers.announceLength length).endToEnd.firstText? forwardingHeader =
        request.headers.endToEnd.firstText? forwardingHeader := by
      refine Headers.firstText?_congr ?_
      rw [Headers.all_endToEnd, Headers.all_endToEnd, Headers.connectionNames_announceLength,
        Headers.all_announceLength]
      simp [forwardingHeader]
    rw [Headers.extendedChain, Headers.extendedChain, line]

theorem firstText?_of_sent (known : gate.peer = some peer)
    (sent : (errand, out, delivery) ∈ (gate.record request s).filterMap Call.sent?) :
    out.headers.firstText? forwardingHeader =
      some (request.headers.endToEnd.extendedChain peer.host.text).toList := by
  rw [Headers.firstText?, Headers.first?, line_of_sent known sent]
  exact (Headers.readable_extendedChain peer.host request.headers.endToEnd).written

theorem firstEntries_of_sent (known : gate.peer = some peer)
    (sent : (errand, out, delivery) ∈ (gate.record request s).filterMap Call.sent?) :
    out.headers.firstEntries =
      request.headers.endToEnd.firstEntries ++ [peer.host.text.toList] := by
  rw [Headers.firstEntries, firstText?_of_sent known sent]
  exact Headers.commaEntries_extendedChain peer.host request.headers.endToEnd

/-- Where all lines of the chain can be read, what is sent are the entries of the first line, and
    the other end of the connection behind them. These are all entries just if there is no second
    line. -/
theorem chain_kept_iff (known : gate.peer = some peer)
    (readable : ∀ line ∈ request.headers.all forwardingHeader, line.all isVisibleOctet = true)
    (unnamed : ¬ request.headers.Names forwardingHeader)
    (sent : (errand, out, delivery) ∈ (gate.record request s).filterMap Call.sent?) :
    out.headers.entries forwardingHeader =
        request.headers.firstEntries ++ [peer.host.text.toList] ∧
      (out.headers.entries forwardingHeader =
          request.headers.entries forwardingHeader ++ [peer.host.text.toList] ↔
        (request.headers.all forwardingHeader).length ≤ 1) := by
  have only := line_of_sent known sent
  have entries : out.headers.entries forwardingHeader =
      request.headers.firstEntries ++ [peer.host.text.toList] := by
    have written := (Headers.readable_extendedChain peer.host request.headers.endToEnd).written
    rw [Headers.entries, only]
    simp only [List.filterMap_cons, written, List.filterMap_nil, List.flatMap_cons,
      List.flatMap_nil, List.append_nil, Headers.commaEntries_extendedChain,
      Headers.firstEntries_endToEnd unnamed]
  refine ⟨entries, ?_⟩
  rw [entries, List.append_left_inj, Headers.firstEntries_eq_entries_iff readable]

end

/-- A request that registers an empty job, with these headers. -/
def relayedRegistration (headers : Headers) : Incoming := { plainRegistration with headers }

def sentRelayed (chain : String) : Request :=
  { sentRegistration with
    headers := sentRegistration.headers ++ [(forwardingHeader, Bytes.ofAscii chain)] }

/-- A line of the chain with two entries. -/
def relayedHeaders : Headers := [(forwardingHeader, Bytes.ofAscii "203.0.113.9,192.0.2.1")]

theorem relayed_chain_kept :
    ¬ relayedHeaders.Names forwardingHeader ∧
      (.forward, sentRelayed "203.0.113.9,192.0.2.1, 10.0.0.9", .reply compressedReply) ∈
        (connectedGate.record (relayedRegistration relayedHeaders) ()).filterMap Call.sent? ∧
      (sentRelayed "203.0.113.9,192.0.2.1, 10.0.0.9").headers.entries forwardingHeader =
        relayedHeaders.entries forwardingHeader ++ ["10.0.0.9".toList] := by
  have unnamed : ¬ (relayedRegistration relayedHeaders).headers.Names forwardingHeader :=
    Headers.mem_connectionNames_iff.not.mp (by decide +kernel)
  have sent : (.forward, sentRelayed "203.0.113.9,192.0.2.1, 10.0.0.9", .reply compressedReply) ∈
      (connectedGate.record (relayedRegistration relayedHeaders) ()).filterMap Call.sent? := by
    decide +kernel
  obtain ⟨_, kept⟩ := chain_kept_iff rfl (by decide +kernel) unnamed sent
  exact ⟨unnamed, sent, kept.mpr (by decide)⟩

/-- Of two lines of the chain the second is lost. -/
theorem second_line_lost :
    connectedGate.peer = some ⟨.v4 10 0 0 9, 4000, 0⟩ ∧
      ∃ headers : Headers,
        headers.all forwardingHeader =
          [Bytes.ofAscii "192.0.2.1", Bytes.ofAscii "198.51.100.7"] ∧
        (∀ line ∈ headers.all forwardingHeader, line.all isVisibleOctet = true) ∧
        ¬ headers.Names forwardingHeader ∧
        (connectedGate.record (relayedRegistration headers) ()).filterMap Call.sent? =
          [(.forward, sentRelayed "192.0.2.1, 10.0.0.9", .reply compressedReply)] ∧
        (sentRelayed "192.0.2.1, 10.0.0.9").headers.entries forwardingHeader ≠
          headers.entries forwardingHeader ++
            [(HostAddress.v4 10 0 0 9).text.toList] := by
  refine ⟨rfl, [(forwardingHeader, Bytes.ofAscii "192.0.2.1"),
    (forwardingHeader, Bytes.ofAscii "198.51.100.7")], by decide, by decide +kernel, ?_,
    by decide +kernel, by decide +kernel⟩
  exact Headers.mem_connectionNames_iff.not.mp (by decide +kernel)

section
variable {gate : Gateway σ} {request : Incoming} {s : σ} {peer : SocketAddress}

/-- Every controller is told the address of the client as the headers received give it. -/
theorem clientIp_shown (gate : Gateway σ) (request : Incoming) (s : σ) :
    ∀ call ∈ gate.record request s, ∀ payload, call.shown? = some payload →
      payload.caller.map (·.clientIp) = some (request.headers.clientAddress gate.peer) := by
  intro call made payload shown
  rcases gate.identifies_or_fails request.headers s with ⟨caller, t, identified⟩ |
    ⟨source, token, failure, t, asked, failed⟩
  · cases identified with
    | unasked idle => rw [((allSee_of_idle idle) call made).2 payload shown]; rfl
    | answered asked found =>
      obtain ⟨later, calls, sees⟩ := asked.succeeds (congrArg Prod.fst found)
      rw [calls] at made
      rcases List.mem_cons.mp made with rfl | after
      · cases shown
      · rw [(sees call after).2 payload shown]; rfl
  · rw [(asked.fails (congrArg Prod.fst failed)).1, List.mem_singleton] at made
    subst made
    cases shown

/-- Controllers are told who the client is by the headers received. Whoever applies the same rule to
    what is sent finds the same client, as long as the chain is passed on and does not begin with a
    blank entry; a chain that concerns the connection only is dropped, and begins anew at the other
    end of the connection. -/
theorem client_agreed (known : gate.peer = some peer) :
    (∀ call ∈ gate.record request s, ∀ payload, call.shown? = some payload →
        payload.caller.map (·.clientIp) = some (request.headers.clientAddress gate.peer)) ∧
      ∀ errand out delivery,
        (errand, out, delivery) ∈ (gate.record request s).filterMap Call.sent? →
          (¬ request.headers.Names forwardingHeader → request.headers.firstEntries.head? ≠ some [] →
            ∀ next, out.headers.clientAddress next = request.headers.clientAddress gate.peer) ∧
          (request.headers.Names forwardingHeader →
            ∀ next, out.headers.clientAddress next = peer.host.text) := by
  have filled : peer.host.text.toList ≠ [] := by simpa using peer.host.text_ne_empty
  refine ⟨clientIp_shown gate request s, fun errand out delivery sent => ⟨?_, ?_⟩⟩
  · intro unnamed begins next
    have entries := firstEntries_of_sent known sent
    rw [Headers.firstEntries_endToEnd unnamed] at entries
    rcases received : request.headers.firstEntries with _ | ⟨entry, rest⟩
    · rw [received, List.nil_append] at entries
      rw [Headers.clientAddress_of_firstEntries entries filled, String.ofList_toList, known,
        Headers.clientAddress_of_firstEntries_nil received]
    · have nonempty : entry ≠ [] := by simpa [received] using begins
      rw [received, List.cons_append] at entries
      rw [Headers.clientAddress_of_firstEntries entries nonempty,
        Headers.clientAddress_of_firstEntries received nonempty]
  · intro named next
    have entries := firstEntries_of_sent known sent
    rw [Headers.firstEntries_endToEnd_of_names named, List.nil_append] at entries
    rw [Headers.clientAddress_of_firstEntries entries filled, String.ofList_toList]

end

theorem relayed_client_agreed :
    (connectedGate.record (relayedRegistration relayedHeaders) ()).filterMap Call.shown? =
        [⟨⟨[]⟩, some ⟨"203.0.113.9", "", none⟩⟩] ∧
      ∀ next, (sentRelayed "203.0.113.9,192.0.2.1, 10.0.0.9").headers.clientAddress next =
        "203.0.113.9" := by
  have known : connectedGate.peer = some ⟨.v4 10 0 0 9, 4000, 0⟩ := rfl
  have unnamed : ¬ (relayedRegistration relayedHeaders).headers.Names forwardingHeader :=
    Headers.mem_connectionNames_iff.not.mp (by decide +kernel)
  have sent : (.forward, sentRelayed "203.0.113.9,192.0.2.1, 10.0.0.9", .reply compressedReply) ∈
      (connectedGate.record (relayedRegistration relayedHeaders) ()).filterMap Call.sent? := by
    decide +kernel
  have received : (relayedRegistration relayedHeaders).headers.clientAddress connectedGate.peer =
      "203.0.113.9" := by decide +kernel
  obtain ⟨_, agreed⟩ := client_agreed known
  obtain ⟨same, _⟩ := agreed _ _ _ sent
  exact ⟨by decide +kernel,
    fun next => (same unnamed (by decide +kernel) next).trans received⟩

/-- Of a chain that is named as concerning the connection only, the controllers are told the client,
    but the backend finds the other end of the connection. -/
theorem dropped_chain_disagrees :
    ∃ headers : Headers, headers.Names forwardingHeader ∧
      (connectedGate.record (relayedRegistration headers) ()).filterMap Call.shown? =
        [⟨⟨[]⟩, some ⟨"203.0.113.9", "", none⟩⟩] ∧
      (connectedGate.record (relayedRegistration headers) ()).filterMap Call.sent? =
        [(.forward, sentRelayed "10.0.0.9", .reply compressedReply)] ∧
      (sentRelayed "10.0.0.9").headers.clientAddress (some ⟨.v4 10 0 0 1, 4646, 0⟩) ≠
        headers.clientAddress connectedGate.peer := by
  refine ⟨("connection", Bytes.ofAscii "X-Forwarded-For") :: relayedHeaders, ?_,
    by decide +kernel, by decide +kernel, by decide +kernel⟩
  exact Headers.mem_connectionNames_iff.mp (by decide +kernel)

end Gateway
end JobGate
