import JobGate.Proofs.Contacts
import JobGate.Proofs.HeaderEdits
import JobGate.Proofs.PayloadTexts

/-!
What webhooks are told. A consultation shows a payload as its document, and its headers repeat what
that document says of the caller: the address in two of them and the accessor in one, each wherever
it is a text that a header may hold, whatever the other one is (`Payload.all_callerHeaders`). So the
one request that a webhook is sent tells one story (`Network.consult_asks`). Its body decodes to the
payload unless a double in it is read as another one (`Endpoint.costly_shown_as_rounded`).
-/
namespace JobGate

/-- A text that a header may hold: no ASCII control but the tab. -/
def HeaderText (text : String) : Prop :=
  ∀ c ∈ text.toList, c = '\t' ∨ 0x20 ≤ c.toNat ∧ c.toNat ≠ 0x7F

instance (text : String) : Decidable (HeaderText text) :=
  inferInstanceAs (Decidable (∀ c ∈ text.toList, c = '\t' ∨ 0x20 ≤ c.toNat ∧ c.toNat ≠ 0x7F))

theorem isValueOctet_iff {o : UInt8} :
    isValueOctet o = true ↔ o.toNat = 0x09 ∨ 0x20 ≤ o.toNat ∧ o.toNat ≠ 0x7F := by
  simp [isValueOctet, UInt8.le_iff_toNat_le, ← UInt8.toNat_inj, or_comm]

theorem isHeaderValue_encodeChar {c : Char} : isHeaderValue (Utf8.encodeChar c) = true ↔
    c = '\t' ∨ 0x20 ≤ c.toNat ∧ c.toNat ≠ 0x7F := by
  have tab : c = '\t' ↔ c.toNat = 0x09 := Char.toNat_inj.symm
  rw [tab]
  rcases Utf8.encodeChar_cases c with ⟨ascii, octets⟩ | ⟨large, -, each⟩
  · simp [isHeaderValue, octets, isValueOctet_iff, Utf8.toNat_octet (n := c.toNat) (by omega)]
  · refine iff_of_true ?_ (by omega)
    refine List.all_eq_true.mpr fun o there => isValueOctet_iff.mpr ?_
    have := each o there
    omega

/-- A text may be the value of a header exactly if all its characters may stand in one. -/
theorem isHeaderValue_encode {text : String} :
    isHeaderValue (Utf8.encode text) = true ↔ HeaderText text := by
  simp only [HeaderText, ← isHeaderValue_encodeChar, isHeaderValue, Utf8.encode, List.all_eq_true,
    List.mem_flatMap]
  constructor
  · exact fun each c there o among => each o ⟨c, there, among⟩
  · rintro each o ⟨c, there, among⟩
    exact each c there o among

/-- The text of a member of the context in the document of a payload. -/
def Json.contextText? (document : Json) (field : String) : Option String :=
  ((document.field? "context").bind (Json.field? field)).bind Json.string?

/-- The values of a header that is there to repeat a text. -/
def Headers.repeating (text : Option String) : List Bytes :=
  match text with
  | some text => if text ≠ "" ∧ HeaderText text then [Utf8.encode text] else []
  | none => []

theorem Headers.repeating_filter (text : Option String) :
    ((text.filter (· ≠ "")).bind headerValue?).toList = repeating text := by
  rcases text with _ | text
  · rfl
  · by_cases filled : text = ""
    · simp [repeating, filled]
    · have kept : (some text).filter (· ≠ "") = some text := by simp [Option.filter, filled]
      rw [kept]
      by_cases legal : HeaderText text
      · simp [repeating, filled, legal, headerValue?, isHeaderValue_encode.mpr legal]
      · simp [repeating, legal, headerValue?, mt isHeaderValue_encode.mp legal]

namespace Payload

theorem contextText?_clientIp (payload : Payload) :
    payload.toJson.contextText? "clientIP" = payload.caller.map (·.clientIp) := by
  obtain ⟨job, _ | caller⟩ := payload <;> rfl

theorem contextText?_accessorId (payload : Payload) :
    payload.toJson.contextText? "accessorID" = payload.caller.map (·.accessorId) := by
  obtain ⟨job, _ | caller⟩ := payload <;> rfl

/-- The headers about the caller repeat the address and the accessor in the document. -/
theorem all_callerHeaders (payload : Payload) (name : String) :
    payload.callerHeaders.all name =
      if name ∈ ["x-forwarded-for", "x-admission-client-ip"] then
        Headers.repeating (payload.toJson.contextText? "clientIP")
      else if name = "x-admission-accessor-id" then
        Headers.repeating (payload.toJson.contextText? "accessorID")
      else [] := by
  rw [contextText?_clientIp, contextText?_accessorId, ← Headers.repeating_filter,
    ← Headers.repeating_filter]
  simp only [callerHeaders, Headers.all_append, clientIp?, accessorId?]
  generalize ((payload.caller.map (·.clientIp)).filter (· ≠ "")).bind headerValue? = address
  generalize ((payload.caller.map (·.accessorId)).filter (· ≠ "")).bind headerValue? = accessor
  by_cases forwarded : name = "x-forwarded-for"
  · cases address <;> cases accessor <;> simp [Headers.all, forwarded]
  · by_cases told : name = "x-admission-client-ip"
    · cases address <;> cases accessor <;> simp [Headers.all, told]
    · by_cases identified : name = "x-admission-accessor-id"
      · cases address <;> cases accessor <;> simp [Headers.all, identified]
      · cases address <;> cases accessor <;>
          simp [Headers.all, forwarded, told, identified, Ne.symm forwarded, Ne.symm told,
            Ne.symm identified]

/-- An accessor that no header can hold is left out, and the address is told all the same. -/
example : (Payload.mk ⟨[]⟩ (some ⟨"192.0.2.10", "a\r\nb", none⟩)).callerHeaders =
    [("x-forwarded-for", Bytes.ofAscii "192.0.2.10"),
      ("x-admission-client-ip", Bytes.ofAscii "192.0.2.10")] := by decide

end Payload

theorem Headers.mem_all {headers : Headers} {header : String × Bytes} (there : header ∈ headers) :
    header.2 ∈ headers.all header.1 :=
  List.mem_filterMap.mpr ⟨header, there, if_pos rfl⟩

theorem Headers.isHeaderValue_repeating {text : Option String} {value : Bytes}
    (there : value ∈ repeating text) : isHeaderValue value = true := by
  rcases text with _ | text
  · cases there
  · rw [repeating] at there
    split_ifs at there with told
    · obtain rfl := List.mem_singleton.mp there
      exact isHeaderValue_encode.mpr told.2
    · cases there

/-- A request asks an endpoint about a payload: the body is the document of the payload, and the
    headers say of the caller what that document says, as far as headers may. -/
structure Endpoint.Asks (endpoint : Endpoint) (payload : Payload) (request : Request) : Prop where
  target : request.method = endpoint.method ∧ request.uri = endpoint.uri
  body : request.body = payload.toJson.bytes
  readBack : decodeBytes Payload.decoder request.body = .ok payload ↔
    payload.toJson.depth ≤ 127 ∧ payload.toJson.Legible
  context : ∀ found, decodeBytes Payload.decoder request.body = .ok found →
    ∀ field ∈ ["clientIP", "accessorID"],
      found.toJson.contextText? field = payload.toJson.contextText? field
  address : ∀ name ∈ ["x-forwarded-for", "x-admission-client-ip"],
    request.headers.all name = Headers.repeating (payload.toJson.contextText? "clientIP")
  accessor : request.headers.all "x-admission-accessor-id" =
    Headers.repeating (payload.toJson.contextText? "accessorID")
  format : request.headers.all "content-type" = [Bytes.ofAscii "application/json"]
  others : ∀ name ∉ ["x-forwarded-for", "x-admission-client-ip", "x-admission-accessor-id",
    "content-type"], request.headers.all name = []
  printed : ∀ header ∈ request.headers, ∀ o ∈ header.2,
    o.toNat = 0x09 ∨ 0x20 ≤ o.toNat ∧ o.toNat ≠ 0x7F

theorem Endpoint.all_consultation (endpoint : Endpoint) (payload : Payload) (name : String) :
    (endpoint.consultation payload).headers.all name =
      (if name = "content-type" then [Bytes.ofAscii "application/json"] else []) ++
        payload.callerHeaders.all name := by
  rw [← Headers.all_singleton, ← Headers.all_append]
  rfl

theorem Endpoint.asks_consultation (endpoint : Endpoint) (payload : Payload) :
    endpoint.Asks payload (endpoint.consultation payload) where
  target := ⟨rfl, rfl⟩
  body := rfl
  readBack := payload.decodeBytes_bytes_iff
  context found read field named := by
    obtain ⟨address, accessor⟩ := Payload.decodeBytes_bytes_ok read
    rcases List.mem_pair.mp named with rfl | rfl
    · rw [Payload.contextText?_clientIp, Payload.contextText?_clientIp, address]
    · rw [Payload.contextText?_accessorId, Payload.contextText?_accessorId, accessor]
  address name named := by
    have other : name ≠ "content-type" := by
      rintro rfl
      revert named
      decide
    rw [all_consultation, if_neg other, List.nil_append, Payload.all_callerHeaders, if_pos named]
  accessor := by simp [all_consultation, Payload.all_callerHeaders]
  format := by simp [all_consultation, Payload.all_callerHeaders]
  others name unnamed := by
    simp only [List.mem_cons, List.not_mem_nil, or_false, not_or] at unnamed
    simp [all_consultation, Payload.all_callerHeaders, unnamed]
  printed header there o among := by
    have value := Headers.mem_all there
    suffices isHeaderValue header.2 = true from
      isValueOctet_iff.mp (List.all_eq_true.mp this o among)
    rw [all_consultation, Payload.all_callerHeaders, List.mem_append] at value
    rcases value with format | told
    · split_ifs at format
      · rw [List.mem_singleton.mp format]
        decide
      · cases format
    · split_ifs at told
      · exact Headers.isHeaderValue_repeating told
      · exact Headers.isHeaderValue_repeating told
      · cases told

variable {τ α : Type}

/-- A webhook is sent one request, which asks about the payload, if its target is absolute with
    scheme `http`, and else nothing; whatever the network does and however the answer is read. -/
theorem Network.consult_asks (net : Network τ) (endpoint : Endpoint) (answer : Decoder α)
    (payload : Payload) (w : Tapped τ) :
    ∃ request : Request, endpoint.Asks payload request ∧
      (net.tapped.consult endpoint answer payload w).2.2 = w.2 ++
        if endpoint.uri.isAbsolute = true ∧ endpoint.uri.scheme = some "http" then
          [.request .consult request]
        else [] := by
  refine ⟨endpoint.consultation payload, endpoint.asks_consultation payload, ?_⟩
  have target : (endpoint.consultation payload).uri = endpoint.uri := rfl
  rw [consult, ask, send, target]
  by_cases absolute : endpoint.uri.isAbsolute = true
  · by_cases http : endpoint.uri.scheme = some "http"
    · cases sent : (net.dispatch .consult (endpoint.consultation payload) w.1).1 <;>
        simp [absolute, http, tapped, tap, sent]
    · simp [absolute, http]
  · simp [absolute]

/-- A job that costs as good as 9.9, up to the last place. -/
def costly : Payload where
  job := ⟨[("Cost", .number (.double ⟨false, 0x13CCCCCCCCCCCC, -49, by decide⟩))]⟩

/-- A job that costs 9.9. -/
def rounded : Payload where
  job := ⟨[("Cost", .number (.double ⟨false, 0x13CCCCCCCCCCCD, -49, by decide⟩))]⟩

/-- The text of a double need not be read as the double: a payload that a text decodes to is shown
    with all its digits, and decodes to another one. -/
theorem Endpoint.costly_shown_as_rounded :
    decodeBytes Payload.decoder
        (Utf8.encode "\x7b\"job\":\x7b\"Cost\":9.8999999999999986\x7d\x7d") = .ok costly ∧
      costly.toJson.depth ≤ 127 ∧ rounded ≠ costly ∧
      ∀ endpoint : Endpoint, (endpoint.consultation costly).body =
          Utf8.encode "\x7b\"job\":\x7b\"Cost\":9.899999999999999\x7d\x7d" ∧
        decodeBytes Payload.decoder (endpoint.consultation costly).body = .ok rounded := by
  refine ⟨by decide +kernel, by decide, by decide, fun endpoint => ?_⟩
  have body : (endpoint.consultation costly).body = costly.toJson.bytes := rfl
  rw [body]
  exact ⟨by decide +kernel, by decide +kernel⟩

end JobGate
