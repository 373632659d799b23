import JobGate.Gateway.Forwarding
import JobGate.Proofs.Results
import JobGate.Settings.Basic
import Mathlib.Data.List.TakeWhile

/-!
Where requests are forwarded to. What is read as a path or a query holds only characters that may
stand there (`Uri.parse_clean`), so putting the backend's path in front and reading it again finds
the same path and query (`PathQuery.parse_append`). With a backend from the settings and a target
that is not too long there is always a URI to forward to (`forwardTarget_ok`).
-/
namespace JobGate

namespace PathQuery

/-- Path and query hold only characters that may stand in them. -/
structure Clean (t : PathQuery) : Prop where
  path : ∀ c ∈ t.path.toList, isPathChar c = true
  query : ∀ q, t.query = some q → ∀ c ∈ q.toList, isQueryChar c = true

theorem clean_root : Clean ⟨"/", Option.none⟩ := ⟨by simp [isPathChar], by simp⟩

theorem clean_star : Clean ⟨"*", Option.none⟩ := ⟨by simp [isPathChar], by simp⟩

theorem ends_of_isPathChar {c : Char} (allowed : isPathChar c = true) :
    (c != '?' && c != '#') = true := by
  have mark : isPathChar '?' = false := by decide
  have hash : isPathChar '#' = false := by decide
  have notMark : c ≠ '?' := by rintro rfl; simp [mark] at allowed
  have notHash : c ≠ '#' := by rintro rfl; simp [hash] at allowed
  simp [notMark, notHash]

theorem ends_of_isQueryChar {c : Char} (allowed : isQueryChar c = true) : (c != '#') = true := by
  have hash : isQueryChar '#' = false := by decide
  have notHash : c ≠ '#' := by rintro rfl; simp [hash] at allowed
  simp [notHash]

theorem parse_clean {cs : List Char} {t : PathQuery} (read : parse cs = .ok t) : t.Clean := by
  simp only [parse] at read
  split at read
  · cases read
  · rename_i pathAllowed
    have path : ∀ c ∈ cs.takeWhile fun c => c != '?' && c != '#', isPathChar c = true := by
      simpa using pathAllowed
    split at read
    · rename_i rest found
      split at read
      · cases read
      · rename_i queryAllowed
        obtain rfl := Except.ok.inj read
        have query : ∀ c ∈ rest.takeWhile (· != '#'), isQueryChar c = true := by
          simpa using queryAllowed
        exact ⟨by simpa using path, by simpa using query⟩
    · obtain rfl := Except.ok.inj read
      exact ⟨by simpa using path, by simp⟩

/-- Characters that may stand in a path are read as a path. -/
theorem parse_path {cs : List Char} (path : ∀ c ∈ cs, isPathChar c = true) :
    parse cs = .ok ⟨String.ofList cs, Option.none⟩ := by
  have whole : (cs.takeWhile fun c => c != '?' && c != '#') = cs :=
    List.takeWhile_eq_self_iff.mpr fun c member => ends_of_isPathChar (path c member)
  have nothing : (cs.dropWhile fun c => c != '?' && c != '#') = [] :=
    List.dropWhile_eq_nil_iff.mpr fun c member => ends_of_isPathChar (path c member)
  have allowed : cs.all isPathChar = true := by simpa using path
  simp [parse, whole, nothing, allowed]

theorem parse_path_query {cs query : List Char} (path : ∀ c ∈ cs, isPathChar c = true)
    (allowedQuery : ∀ c ∈ query, isQueryChar c = true) :
    parse (cs ++ '?' :: query) = .ok ⟨String.ofList cs, some (String.ofList query)⟩ := by
  have front : ((cs ++ '?' :: query).takeWhile fun c => c != '?' && c != '#') = cs := by
    rw [List.takeWhile_append_of_pos fun c member => ends_of_isPathChar (path c member)]
    simp
  have back : ((cs ++ '?' :: query).dropWhile fun c => c != '?' && c != '#') = '?' :: query := by
    rw [List.dropWhile_append_of_pos fun c member => ends_of_isPathChar (path c member)]
    simp
  have whole : query.takeWhile (· != '#') = query :=
    List.takeWhile_eq_self_iff.mpr fun c member => ends_of_isQueryChar (allowedQuery c member)
  have allowed : cs.all isPathChar = true := by simpa using path
  have allowed' : query.all isQueryChar = true := by simpa using allowedQuery
  simp [parse, front, back, whole, allowed, allowed']

/-- A path in front of a path and query becomes part of the path. -/
theorem parse_append {front : String} {t : PathQuery}
    (path : ∀ c ∈ front.toList, isPathChar c = true) (clean : t.Clean)
    (written : t.isEmpty = false) :
    parse (front ++ t.text).toList = .ok ⟨front ++ t.path, t.query⟩ := by
  have all : ∀ c ∈ (front ++ t.path).toList, isPathChar c = true := by
    intro c member
    rcases List.mem_append.mp (by simpa using member) with early | late
    · exact path c early
    · exact clean.path c late
  rcases asked : t.query with _ | query
  · simpa [text, written, asked] using parse_path all
  · simpa [text, written, asked] using parse_path_query all (clean.query query asked)

end PathQuery

/-- A backend from the settings has a scheme `http` and an authority. -/
theorem BackendSettings.uri_ok {settings : BackendSettings} {backend : Uri}
    (set : settings.uri = .ok backend) :
    Uri.parse settings.address = .ok backend ∧ backend.scheme = some "http" ∧
      backend.authority ≠ "" := by
  rcases read : Uri.parse settings.address with e | uri
  · simp [BackendSettings.uri, read] at set
  · by_cases absolute : uri.scheme = some "http" ∧ uri.authority ≠ ""
    · obtain rfl : uri = backend := by simpa [BackendSettings.uri, read, absolute] using set
      exact ⟨rfl, absolute⟩
    · simp [BackendSettings.uri, read, absolute] at set

namespace Uri

/-- What is read as a URI has a path and query of characters that may stand in them, and these are
    what it asks for, unless it has none. -/
theorem parse_target {s : String} {uri : Uri} (read : parse s = .ok uri) :
    uri.target.Clean ∧ (uri.target = PathQuery.none ∨ uri.target? = some uri.target) := by
  have none : PathQuery.none.Clean := ⟨by simp [PathQuery.none], by simp [PathQuery.none]⟩
  unfold parse at read
  split at read
  · cases read
  · split at read
    · cases read
    · obtain rfl := Except.ok.inj read
      exact ⟨PathQuery.clean_root, .inr rfl⟩
    · obtain rfl := Except.ok.inj read
      exact ⟨PathQuery.clean_star, .inr rfl⟩
    · obtain ⟨⟨authority, rest⟩, _, read⟩ := bind_ok read
      obtain ⟨_, read⟩ := unless_ok read
      obtain rfl := Except.ok.inj read
      exact ⟨none, .inl rfl⟩
    · obtain ⟨t, target, read⟩ := bind_ok read
      obtain rfl := Except.ok.inj read
      exact ⟨PathQuery.parse_clean target, .inr rfl⟩
    · obtain ⟨⟨scheme, rest⟩, _, read⟩ := bind_ok read
      obtain ⟨⟨authority, after⟩, _, read⟩ := bind_ok read
      cases scheme with
      | none =>
        obtain ⟨_, read⟩ := unless_ok read
        obtain rfl := Except.ok.inj read
        exact ⟨none, .inl rfl⟩
      | some scheme =>
        obtain ⟨_, read⟩ := unless_ok read
        obtain ⟨t, target, read⟩ := bind_ok read
        obtain rfl := Except.ok.inj read
        exact ⟨PathQuery.parse_clean target, .inr rfl⟩

theorem parse_clean {s : String} {uri : Uri} (read : parse s = .ok uri) : uri.target.Clean :=
  (parse_target read).1

/-- The path and query that are asked for: the root where none is named. -/
def requested (uri : Uri) : PathQuery :=
  match uri.target? with
  | some t => if t.isEmpty then ⟨"/", none⟩ else t
  | none => ⟨"/", none⟩

theorem requested_text (uri : Uri) :
    uri.requested.text = (uri.target?.map PathQuery.text).getD "/" := by
  have root : PathQuery.text ⟨"/", none⟩ = "/" := by decide
  rcases asked : uri.target? with _ | t
  · simp [requested, asked, root]
  · by_cases empty : t.isEmpty
    · simp [requested, asked, empty, PathQuery.text]
    · simp [requested, asked, empty]

theorem requested_isEmpty (uri : Uri) : uri.requested.isEmpty = false := by
  have root : PathQuery.isEmpty ⟨"/", none⟩ = false := by decide
  rcases asked : uri.target? with _ | t
  · simp [requested, asked, root]
  · by_cases empty : t.isEmpty
    · simp [requested, asked, empty, root]
    · simp [requested, asked, empty]

theorem requested_clean {uri : Uri} (clean : uri.target.Clean) : uri.requested.Clean := by
  rcases asked : uri.target? with _ | t
  · simpa [requested, asked] using PathQuery.clean_root
  · have same : uri.target = t := by
      unfold target? at asked
      split at asked
      · exact Option.some.inj asked
      · cases asked
    by_cases empty : t.isEmpty
    · simpa [requested, asked, empty] using PathQuery.clean_root
    · rw [same] at clean
      simpa [requested, asked, empty] using clean

theorem pathPrefix_clean {backend : Uri} (clean : backend.target.Clean) :
    ∀ c ∈ backend.pathPrefix.toList, PathQuery.isPathChar c = true := by
  have whole : ∀ c ∈ backend.path.toList, PathQuery.isPathChar c = true := by
    unfold path PathQuery.pathOrRoot
    split
    · simp
    · split
      · exact PathQuery.clean_root.path
      · exact clean.path
  intro c member
  rw [pathPrefix, String.toList_ofList, List.mem_reverse] at member
  exact whole c (List.mem_reverse.mp (List.dropWhile_subset _ member))

/-- A path and query that is not too long is read again below the backend's path. -/
theorem parseTarget_below {backend : Uri} {wanted : PathQuery} (clean : backend.target.Clean)
    (wantedClean : wanted.Clean) (written : wanted.isEmpty = false)
    (fits : (backend.pathPrefix ++ wanted.text).utf8ByteSize ≤ maxLength) :
    parseTarget (backend.pathPrefix ++ wanted.text) =
      .ok ⟨backend.pathPrefix ++ wanted.path, wanted.query⟩ := by
  rw [parseTarget, if_neg (Nat.not_lt.mpr fits)]
  exact PathQuery.parse_append (pathPrefix_clean clean) wantedClean written

/-- A target that is not too long is forwarded to the backend, below its path. -/
theorem forwardTarget_ok {settings : BackendSettings} {backend uri : Uri} {s : String}
    (set : settings.uri = .ok backend) (asked : parse s = .ok uri)
    (fits : (backend.pathPrefix ++ uri.requested.text).utf8ByteSize ≤ maxLength) :
    backend.forwardTarget uri.target? = .ok ⟨backend.scheme, backend.authority,
      ⟨backend.pathPrefix ++ uri.requested.path, uri.requested.query⟩⟩ := by
  obtain ⟨read, http, host⟩ := BackendSettings.uri_ok set
  have parsed := parseTarget_below (parse_clean read) (requested_clean (parse_clean asked))
    (requested_isEmpty uri) fits
  simp [forwardTarget, ← requested_text, parsed, ofParts, http, host, bind, Except.bind]

/-- A target that can be forwarded is not too long. -/
theorem fits_of_forwardTarget {backend target : Uri} {asked : Option PathQuery}
    (found : backend.forwardTarget asked = .ok target) :
    (backend.pathPrefix ++ (asked.map PathQuery.text).getD "/").utf8ByteSize ≤ maxLength := by
  obtain ⟨_, parsed, _⟩ := bind_ok found
  rw [parseTarget] at parsed
  split at parsed
  · cases parsed
  · omega

/-- Wherever a request is forwarded, it is to the backend, below its path. -/
theorem forwardTarget_eq {settings : BackendSettings} {backend uri target : Uri} {s : String}
    (set : settings.uri = .ok backend) (asked : parse s = .ok uri)
    (found : backend.forwardTarget uri.target? = .ok target) :
    target = ⟨some "http", backend.authority,
      ⟨backend.pathPrefix ++ uri.requested.path, uri.requested.query⟩⟩ := by
  obtain ⟨_, http, _⟩ := BackendSettings.uri_ok set
  have fits := fits_of_forwardTarget found
  rw [← requested_text] at fits
  have same := forwardTarget_ok set asked fits
  rw [http] at same
  exact Except.ok.inj (found.symm.trans same)

end Uri
end JobGate
