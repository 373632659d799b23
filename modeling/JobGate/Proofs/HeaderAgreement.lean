import JobGate.Proofs.ForwardedRequests

/-!
Headers that agree on all names but some. What a gate reads of headers and what it makes of them
agree as far as the headers do, as long as the names in question say nothing about the connection or
about where the request came from.
-/
namespace JobGate
namespace Headers

/-- The headers agree on all names but those listed. -/
def AgreeBeyond (names : List String) (a b : Headers) : Prop :=
  ∀ name, name ∉ names → a.all name = b.all name

namespace AgreeBeyond

variable {names : List String} {a b : Headers} (agree : AgreeBeyond names a b)
include agree

theorem token (kept : tokenHeader ∉ names) : a.token? = b.token? := by
  have same : a.firstText? tokenHeader = b.firstText? tokenHeader := firstText?_congr (agree _ kept)
  rw [token?, token?, same]

theorem declaresGzip (kept : "content-encoding" ∉ names) : a.declaresGzip = b.declaresGzip :=
  declaresGzip_congr (agree _ kept)

theorem clientAddress (kept : forwardingHeader ∉ names) (peer : Option SocketAddress) :
    a.clientAddress peer = b.clientAddress peer := by
  have line : a.firstText? forwardingHeader = b.firstText? forwardingHeader :=
    firstText?_congr (agree _ kept)
  have same : a.forwardedClient? = b.forwardedClient? := by
    rw [forwardedClient?, forwardedClient?, line]
  simp only [Headers.clientAddress, same]

theorem connectionNames (kept : "connection" ∉ names) : a.connectionNames = b.connectionNames :=
  connectionNames_congr (agree _ kept)

theorem announceLength {n m : Nat} (length : n = m ∨ "content-length" ∈ names) :
    AgreeBeyond names (a.announceLength n) (b.announceLength m) := by
  intro name other
  rw [all_announceLength, all_announceLength, agree name other]
  by_cases framing : name = "content-length"
  · obtain rfl : n = m := length.resolve_right (framing ▸ other)
    rfl
  · rw [if_neg framing, if_neg framing]

theorem endToEnd (kept : "connection" ∉ names) : AgreeBeyond names a.endToEnd b.endToEnd := by
  intro name other
  rw [all_endToEnd, all_endToEnd, agree.connectionNames kept, agree name other]

theorem forwardedHeaders (kept : "connection" ∉ names) (peer : Option SocketAddress) :
    AgreeBeyond names (Gateway.forwardedHeaders peer a) (Gateway.forwardedHeaders peer b) := by
  intro name other
  by_cases chain : name = forwardingHeader ∧ peer ≠ none
  · obtain ⟨rfl, known⟩ := chain
    obtain ⟨address, rfl⟩ := Option.ne_none_iff_exists'.mp known
    have line : a.endToEnd.firstText? forwardingHeader = b.endToEnd.firstText? forwardingHeader :=
      firstText?_congr (agree.endToEnd kept _ other)
    rw [Gateway.all_forwardedHeaders_chain, Gateway.all_forwardedHeaders_chain, extendedChain,
      extendedChain, line]
  · have passed : name ≠ forwardingHeader ∨ peer = none := by tauto
    rw [Gateway.all_forwardedHeaders passed, Gateway.all_forwardedHeaders passed, localNames,
      localNames, agree.connectionNames kept, agree name other]

end AgreeBeyond
end Headers
end JobGate
