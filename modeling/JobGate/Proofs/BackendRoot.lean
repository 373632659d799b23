import JobGate.Proofs.ForwardedRequests
import JobGate.Startup

/-!
# The root of a backend

All requests to a backend go below one root, which is its address up to the slashes that its path
ends in. A path and query from a caller is asked for there as it is written, so the backend serves
the very path that was looked at for a route; tokens are looked up below the same root
(`asked_below_root`).
-/
namespace JobGate

/-- The path begins with a slash. -/
def PathQuery.Rooted (t : PathQuery) : Prop := t.path.toList.head? = some '/'

instance (t : PathQuery) : Decidable t.Rooted :=
  inferInstanceAs (Decidable (t.path.toList.head? = some '/'))

namespace Uri

/-- The path of the backend is this front and nothing but slashes, and the front ends in none. -/
structure RootPath (backend : Uri) (front : String) : Prop where
  path : ∃ slashes : String, backend.path = front ++ slashes ∧ ∀ c ∈ slashes.toList, c = '/'
  bare : front.toList.getLast? ≠ some '/'

/-- The URI names a path and query as they are written, below a backend's root. -/
structure Below (backend : Uri) (front : String) (wanted : PathQuery) (uri : Uri) : Prop where
  scheme : uri.scheme = backend.scheme
  authority : uri.authority = backend.authority
  path : uri.path = front ++ wanted.path
  query : uri.target.query = wanted.query
  text : uri.text = "http://" ++ backend.authority ++ front ++ wanted.text

theorem rootPath_pathPrefix (backend : Uri) : backend.RootPath backend.pathPrefix := by
  let turned := backend.path.toList.reverse
  constructor
  · refine ⟨String.ofList (turned.takeWhile (· == '/')).reverse, ?_, ?_⟩
    · rw [pathPrefix, ← String.toList_inj, String.toList_append, String.toList_ofList,
        String.toList_ofList]
      calc backend.path.toList
          = (turned.takeWhile (· == '/') ++ turned.dropWhile (· == '/')).reverse := by
            rw [List.takeWhile_append_dropWhile, List.reverse_reverse]
        _ = (turned.dropWhile (· == '/')).reverse ++ (turned.takeWhile (· == '/')).reverse :=
            List.reverse_append
    · intro c inside
      rw [String.toList_ofList, List.mem_reverse] at inside
      simpa using List.mem_takeWhile_imp inside
  · rw [pathPrefix, String.toList_ofList, List.getLast?_reverse]
    intro slash
    have stopped := List.head?_dropWhile_not (· == '/') turned
    simp only [turned] at stopped
    rw [slash] at stopped
    simp at stopped

/-- A backend has one root. -/
theorem RootPath.eq_pathPrefix {backend : Uri} {front : String} (root : backend.RootPath front) :
    front = backend.pathPrefix := by
  obtain ⟨⟨slashes, written, only⟩, bare⟩ := root
  have turned : backend.path.toList.reverse = slashes.toList.reverse ++ front.toList.reverse := by
    rw [written, String.toList_append, List.reverse_append]
  have dropped : front.toList.reverse.dropWhile (· == '/') = front.toList.reverse := by
    rw [← List.head?_reverse] at bare
    rcases ends : front.toList.reverse with _ | ⟨c, rest⟩
    · rfl
    · rw [ends] at bare
      have other : c ≠ '/' := by simpa using bare
      simp [other]
  rw [pathPrefix, turned, List.dropWhile_append_of_pos, dropped, List.reverse_reverse,
    String.ofList_toList]
  intro c inside
  simp [only c (List.mem_reverse.mp inside)]

theorem ne_empty_of_rooted {wanted : PathQuery} (rooted : wanted.Rooted) : wanted.path ≠ "" := by
  intro empty
  simp [PathQuery.Rooted, empty] at rooted

theorem path_of_rooted {uri : Uri} (rooted : uri.target.Rooted) : uri.path = uri.target.path := by
  simp [path, PathQuery.isEmpty, PathQuery.pathOrRoot, ne_empty_of_rooted rooted]

section
variable {backend : Uri} {wanted : PathQuery}

theorem below_root (http : backend.scheme = some "http") (rooted : wanted.Rooted)
    (front : String) : backend.Below front wanted
      ⟨backend.scheme, backend.authority, ⟨front ++ wanted.path, wanted.query⟩⟩ := by
  have written := ne_empty_of_rooted rooted
  have longer : front ++ wanted.path ≠ "" :=
    fun empty => written (String.append_eq_empty_iff.mp empty).2
  have same : path ⟨backend.scheme, backend.authority, ⟨front ++ wanted.path, wanted.query⟩⟩ =
      front ++ wanted.path := by
    simp [path, PathQuery.isEmpty, PathQuery.pathOrRoot, longer]
  refine ⟨rfl, rfl, same, rfl, ?_⟩
  rw [text, same]
  simp [http, PathQuery.text, PathQuery.isEmpty, written, String.append_assoc]

theorem forwardTarget_below (clean : backend.target.Clean) (http : backend.scheme = some "http")
    (host : backend.authority ≠ "") (wantedClean : wanted.Clean) (rooted : wanted.Rooted)
    (fits : (backend.pathPrefix ++ wanted.text).utf8ByteSize ≤ maxLength) :
    ∃ uri, backend.forwardTarget (some wanted) = .ok uri ∧
      backend.Below backend.pathPrefix wanted uri := by
  have written : wanted.isEmpty = false := by
    simp [PathQuery.isEmpty, ne_empty_of_rooted rooted]
  have parsed := parseTarget_below clean wantedClean written fits
  refine ⟨_, ?_, below_root http rooted _⟩
  simp [forwardTarget, parsed, ofParts, http, host, bind, Except.bind]

def tokenTarget : PathQuery := ⟨tokenPath, none⟩

theorem identityTarget_below (clean : backend.target.Clean) (http : backend.scheme = some "http")
    (host : backend.authority ≠ "")
    (fits : (backend.pathPrefix ++ tokenPath).utf8ByteSize ≤ maxLength) :
    ∃ uri, backend.identityTarget = .ok uri ∧
      backend.Below backend.pathPrefix tokenTarget uri := by
  have tokenClean : tokenTarget.Clean :=
    ⟨by simp [tokenTarget, tokenPath, PathQuery.isPathChar], by simp [tokenTarget]⟩
  have parsed := parseTarget_below clean tokenClean (by decide) fits
  have same : tokenTarget.text = tokenPath := by decide
  rw [same] at parsed
  refine ⟨_, ?_, below_root http (by decide) _⟩
  simp [identityTarget, parsed, ofParts, http, host]

end

theorem below_of_forwardTarget {backend uri : Uri} {wanted : PathQuery}
    (clean : backend.target.Clean) (http : backend.scheme = some "http")
    (host : backend.authority ≠ "") (wantedClean : wanted.Clean) (rooted : wanted.Rooted)
    (found : backend.forwardTarget (some wanted) = .ok uri) :
    backend.Below backend.pathPrefix wanted uri := by
  have fits := fits_of_forwardTarget found
  rw [Option.map_some, Option.getD_some] at fits
  obtain ⟨same, forwarded, below⟩ := forwardTarget_below clean http host wantedClean rooted fits
  obtain rfl : same = uri := Except.ok.inj (forwarded.symm.trans found)
  exact below

theorem below_of_identityTarget {backend uri : Uri} (clean : backend.target.Clean)
    (http : backend.scheme = some "http") (host : backend.authority ≠ "")
    (found : backend.identityTarget = .ok uri) :
    backend.Below backend.pathPrefix tokenTarget uri := by
  have fits : (backend.pathPrefix ++ tokenPath).utf8ByteSize ≤ maxLength := by
    by_contra long
    rw [identityTarget, parseTarget, if_pos (Nat.not_le.mp long)] at found
    cases found
  obtain ⟨same, known, below⟩ := identityTarget_below clean http host fits
  obtain rfl : same = uri := Except.ok.inj (known.symm.trans found)
  exact below

theorem target?_of_rooted {s : String} {uri : Uri} (read : parse s = .ok uri)
    (rooted : uri.target.Rooted) : uri.target? = some uri.target := by
  rcases (parse_target read).2 with none | asked
  · rw [none] at rooted
    exact absurd rooted (by decide)
  · exact asked

end Uri

/-- A gate from settings looks tokens up at its own backend. -/
theorem Settings.identity_of_gateway {σ : Type} {settings : Settings} {resources : Resources σ}
    {gate : Gateway σ} (made : settings.gateway resources = .ok gate) {source : IdentitySource σ}
    (held : gate.identity = some source) :
    ∃ uri, gate.backend.identityTarget = .ok uri ∧
      source = IdentitySource.ofBackend resources.network uri := by
  obtain ⟨backend, _, made⟩ := bind_ok made
  obtain ⟨pipeline, _, made⟩ := bind_ok made
  by_cases wanted : pipeline.resolvesToken = true
  · rcases target : backend.identityTarget with chain | uri
    · simp only [wanted, if_true, target] at made
      cases made
    · simp only [wanted, if_true, target] at made
      obtain rfl := Except.ok.inj made
      exact ⟨uri, target, (Option.some.inj held).symm⟩
  · simp only [wanted] at made
    obtain rfl := Except.ok.inj made
    cases held

namespace Gateway

variable {σ : Type}

/-- What a gate sends for a path and query goes below a root of its backend, and asks there for the
    path that was looked at for a route. -/
def AsksBelow (gate : Gateway σ) (front : String) : Prop :=
  ∀ request s text errand out delivery, Uri.parse text = .ok request.uri →
    request.uri.target.Rooted →
    (errand, out, delivery) ∈ (gate.record request s).filterMap Call.sent? →
      gate.backend.Below front request.uri.target out.uri ∧ out.method = request.method ∧
        ∀ below, out.uri.path = front ++ below → below = request.uri.path

/-- Tokens are looked up below a root of the backend, if they are at all. -/
def LooksUpBelow (gate : Gateway σ) (net : Network σ) (front : String) : Prop :=
  ∀ source, gate.identity = some source →
    ∃ uri, source = IdentitySource.ofBackend net uri ∧ gate.backend.Below front Uri.tokenTarget uri

theorem asksBelow_pathPrefix (gate : Gateway σ) (clean : gate.backend.target.Clean)
    (http : gate.backend.scheme = some "http") (host : gate.backend.authority ≠ "") :
    gate.AsksBelow gate.backend.pathPrefix := by
  intro request s text errand out delivery asked rooted sent
  obtain ⟨report, handed⟩ := handsOver_of_sent sent
  obtain ⟨headers, body, made, _⟩ := outgoing_of_handsOver handed
  obtain ⟨found, method, _⟩ := outgoing_ok made
  rw [Uri.target?_of_rooted asked rooted] at found
  have below := Uri.below_of_forwardTarget clean http host (Uri.parse_clean asked) rooted found
  refine ⟨below, method, fun rest same => ?_⟩
  rw [below.path] at same
  rw [Uri.path_of_rooted rooted]
  exact (String.append_right_inj _).mp same.symm

end Gateway

/-- A path and query that begins with a slash is asked for as it is written, below the backend's
    address without the slashes at its end, unless that is too long for a URI. So what the backend
    is asked for below its root is the very path that was looked at for a route; and tokens are
    looked up below the same root. -/
theorem asked_below_root {address : String} {backend : Uri} (read : Uri.parse address = .ok backend)
    (http : backend.scheme = some "http") (host : backend.authority ≠ "") :
    ∃ front, backend.RootPath front ∧
      (∀ written wanted, PathQuery.parse written = .ok wanted → wanted.Rooted →
        (front ++ wanted.text).utf8ByteSize ≤ Uri.maxLength →
        ∃ uri, backend.forwardTarget (some wanted) = .ok uri ∧ backend.Below front wanted uri) ∧
      ((front ++ tokenPath).utf8ByteSize ≤ Uri.maxLength →
        ∃ uri, backend.identityTarget = .ok uri ∧ backend.Below front Uri.tokenTarget uri) ∧
      ∀ (σ : Type) (gate : Gateway σ), gate.backend = backend →
        gate.AsksBelow front ∧ ∀ settings resources,
          Settings.gateway settings resources = .ok gate →
            gate.LooksUpBelow resources.network front := by
  have clean := Uri.parse_clean read
  refine ⟨backend.pathPrefix, Uri.rootPath_pathPrefix backend, ?_, ?_, ?_⟩
  · intro written wanted parsed rooted fits
    exact Uri.forwardTarget_below clean http host (PathQuery.parse_clean parsed) rooted fits
  · exact Uri.identityTarget_below clean http host
  · rintro σ gate rfl
    refine ⟨gate.asksBelow_pathPrefix clean http host, fun settings resources made => ?_⟩
    intro source held
    obtain ⟨uri, found, rfl⟩ := Settings.identity_of_gateway made held
    exact ⟨uri, rfl, Uri.below_of_identityTarget clean http host found⟩

/-- A backend below a path, with slashes and a query at its end. -/
def prefixedBackend : Uri := ⟨some "http", "nomad:4646", ⟨"/api//", some "region=eu"⟩⟩

theorem prefixed_backend_asked :
    Uri.parse "http://nomad:4646/api//?region=eu" = .ok prefixedBackend ∧
      prefixedBackend.RootPath "/api" ∧
      (∃ uri, prefixedBackend.forwardTarget (some ⟨"/v1/jobs", some "namespace=web"⟩) = .ok uri ∧
        uri.text = "http://nomad:4646/api/v1/jobs?namespace=web") ∧
      ∃ uri, prefixedBackend.identityTarget = .ok uri ∧
        uri.text = "http://nomad:4646/api/v1/acl/token/self" := by
  have read : Uri.parse "http://nomad:4646/api//?region=eu" = .ok prefixedBackend := by
    decide +kernel
  obtain ⟨front, root, forwards, looksUp, _⟩ := asked_below_root read rfl (by decide)
  have found : prefixedBackend.pathPrefix = "/api" := by decide +kernel
  obtain rfl : front = "/api" := root.eq_pathPrefix.trans found
  have parsed : PathQuery.parse "/v1/jobs?namespace=web".toList =
      .ok ⟨"/v1/jobs", some "namespace=web"⟩ := by decide +kernel
  obtain ⟨asked, forwarded, below⟩ := forwards _ _ parsed (by decide) (by decide +kernel)
  obtain ⟨described, known, tokens⟩ := looksUp (by decide +kernel)
  refine ⟨read, root, ⟨asked, forwarded, ?_⟩, described, known, ?_⟩
  · rw [below.text]
    decide
  · rw [tokens.text]
    decide

end JobGate
