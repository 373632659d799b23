import JobGate.Proofs.HeaderEdits
import JobGate.Proofs.Pieces

/-!
The headers that concern one connection only. Which those are is read off the headers themselves: a
message names them in its lines of `connection`, in any case and with blanks around each name
(`Headers.mem_connectionNames_iff`). These are dropped and no others are, so that there is nothing
left to drop (`Headers.stripped_exactly`).
-/
namespace JobGate

theorem forall_octet {p : UInt8 → Prop} (each : ∀ n : Fin 256, p (UInt8.ofNat n)) (o : UInt8) :
    p o := by
  have here := each ⟨o.toNat, o.toNat_lt⟩
  rwa [UInt8.ofNat_toNat] at here

namespace Bytes

theorem toNat_ofNat_octet (o : UInt8) : (Char.ofNat o.toNat).toNat = o.toNat := by
  have small := o.toNat_lt
  have valid : o.toNat.isValidChar := .inl (by omega)
  rw [Char.ofNat, dif_pos valid]
  rfl

theorem toLower_ofNat_octet (o : UInt8) :
    (Char.ofNat o.toNat).toLower = Char.ofNat (lower o).toNat := by
  revert o
  refine forall_octet ?_
  decide +kernel

theorem latin_of_mem_toLatin1 {b : Bytes} : ∀ c ∈ toLatin1 b, c.toNat < 256 := by
  intro c among
  obtain ⟨o, _, rfl⟩ := List.mem_map.mp among
  rw [toNat_ofNat_octet]
  exact o.toNat_lt

/-- Characters up to U+00FF are read back from their octets. -/
theorem toLatin1_octets {cs : List Char} (latin : ∀ c ∈ cs, c.toNat < 256) :
    toLatin1 (cs.map fun c => c.toNat.toUInt8) = cs := by
  rw [toLatin1, List.map_map]
  refine (List.map_congr_left fun c among => ?_).trans (List.map_id cs)
  have small : c.toNat % 256 = c.toNat := Nat.mod_eq_of_lt (latin c among)
  simp [small]

theorem octets_toLatin1 (b : Bytes) : (toLatin1 b).map (fun c => c.toNat.toUInt8) = b := by
  rw [toLatin1, List.map_map]
  refine (List.map_congr_left fun o _ => ?_).trans (List.map_id b)
  simp [toNat_ofNat_octet]

theorem lowerAscii_toLatin1 (b : Bytes) :
    Headers.lowerAscii (toLatin1 b) = toLatin1 (b.map lower) := by
  rw [Headers.lowerAscii, toLatin1, toLatin1, List.map_map, List.map_map]
  exact List.map_congr_left fun o _ => toLower_ofNat_octet o

end Bytes

theorem isTokenOctet_lower (o : UInt8) : isTokenOctet (Bytes.lower o) = isTokenOctet o := by
  revert o
  refine forall_octet ?_
  decide +kernel

theorem isToken_lower (b : Bytes) : isToken (b.map Bytes.lower) = isToken b := by
  simp [isToken, List.all_map, Function.comp_def, isTokenOctet_lower]

theorem solid_of_isTokenOctet (o : UInt8) : isTokenOctet o = true →
    isBlank (Char.ofNat o.toNat) = false ∧ Char.ofNat o.toNat ≠ ',' := by
  revert o
  refine forall_octet ?_
  decide +kernel

theorem solid_of_isToken {b : Bytes} (token : isToken b = true) : Solid (Bytes.toLatin1 b) := by
  intro c among
  obtain ⟨o, inside, rfl⟩ := List.mem_map.mp among
  have each := (Bool.and_eq_true_iff.mp token).2
  exact solid_of_isTokenOctet o (List.all_eq_true.mp each o inside)

theorem headerName?_eq_some_iff {b : Bytes} {name : String} :
    headerName? b = some name ↔
      isToken b = true ∧ Headers.lowerAscii (Bytes.toLatin1 b) = name.toList := by
  rw [Bytes.lowerAscii_toLatin1, headerName?]
  by_cases token : isToken b = true
  · simp [token, ← String.toList_inj]
  · simp [token]

/-- The text is the name of a header, as it is kept. -/
def IsHeaderName (name : String) : Prop := ∃ spelling, headerName? spelling = some name

/-- Whoever spells a name in other letters spells a token. -/
theorem IsHeaderName.isToken {name : String} (legal : IsHeaderName name) {b : Bytes}
    (spells : Headers.lowerAscii (Bytes.toLatin1 b) = name.toList) : isToken b = true := by
  obtain ⟨spelling, read⟩ := legal
  obtain ⟨token, same⟩ := headerName?_eq_some_iff.mp read
  rw [← spells, Bytes.lowerAscii_toLatin1, Bytes.lowerAscii_toLatin1] at same
  have letters : spelling.map Bytes.lower = b.map Bytes.lower := by
    rw [← Bytes.octets_toLatin1 (spelling.map _), same, Bytes.octets_toLatin1]
  rw [← isToken_lower, ← letters, isToken_lower, token]

namespace Headers

/-- The name of a header is listed by a line of the header for this, in any case. A line that is no
    visible text lists nothing, and what is listed but can be no name counts for nothing. -/
structure Names (headers : Headers) (name : String) : Prop where
  legal : IsHeaderName name
  listed : ∃ line ∈ headers.all "connection", ∃ text, visibleText? line = some text ∧
    ∃ entry, Lists text entry ∧ lowerAscii entry = name.toList

theorem mem_entries {name : String} {headers : Headers} {entry : List Char} :
    entry ∈ headers.entries name ↔
      ∃ line ∈ headers.all name, ∃ text, visibleText? line = some text ∧
        entry ∈ commaEntries text := by
  simp only [entries, List.mem_flatMap, List.mem_filterMap]
  constructor
  · rintro ⟨text, ⟨line, there, read⟩, among⟩
    exact ⟨line, there, text, read, among⟩
  · rintro ⟨line, there, text, read, among⟩
    exact ⟨text, ⟨line, there, read⟩, among⟩

theorem visibleText?_eq_some_iff {line : Bytes} {text : List Char} :
    visibleText? line = some text ↔
      line.all isVisibleOctet = true ∧ text = Bytes.toLatin1 line := by
  rw [visibleText?]
  by_cases visible : line.all isVisibleOctet = true
  · rw [if_pos visible, Option.some.injEq, eq_comm, and_iff_right visible]
  · simp [visible]

theorem octets_of_lists {line : Bytes} {entry : List Char}
    (lists : Lists (Bytes.toLatin1 line) entry) :
    Bytes.toLatin1 (entry.map fun c => c.toNat.toUInt8) = entry := by
  refine Bytes.toLatin1_octets fun c inside => ?_
  rcases lists.chars c inside with rfl | among
  · decide
  · exact Bytes.latin_of_mem_toLatin1 c among

/-- What is read off a message is what it names. -/
theorem mem_connectionNames_iff {headers : Headers} {name : String} :
    name ∈ headers.connectionNames ↔ headers.Names name := by
  rw [connectionNames, List.mem_filterMap]
  constructor
  · rintro ⟨entry, among, read⟩
    obtain ⟨line, there, text, visible, among⟩ := mem_entries.mp among
    have lists := lists_of_mem_commaEntries among
    refine ⟨⟨_, read⟩, line, there, text, visible, entry, lists, ?_⟩
    obtain ⟨-, rfl⟩ := visibleText?_eq_some_iff.mp visible
    have spells := (headerName?_eq_some_iff.mp read).2
    rwa [octets_of_lists lists] at spells
  · rintro ⟨legal, line, there, text, visible, entry, lists, spells⟩
    obtain ⟨-, rfl⟩ := visibleText?_eq_some_iff.mp visible
    rw [← octets_of_lists lists] at spells
    have token := legal.isToken spells
    -- a token has neither blanks nor commas, so it is an entry as it stands
    have solid := solid_of_isToken token
    rw [octets_of_lists lists] at solid
    exact ⟨entry, mem_entries.mpr ⟨line, there, _, visible, mem_commaEntries_of_lists solid lists⟩,
      headerName?_eq_some_iff.mpr ⟨token, spells⟩⟩

/-- The header concerns one connection only: every one of that name does, or the message says so. -/
def ConcernsConnection (headers : Headers) (name : String) : Prop :=
  name ∈ connectionHeaders ∨ headers.Names name

/-- The first headers are the second without those that concern one connection only. -/
structure StrippedOf (kept headers : Headers) : Prop where
  dropped : ∀ name, headers.ConcernsConnection name → kept.all name = []
  others : ∀ name, ¬ headers.ConcernsConnection name → kept.all name = headers.all name
  ordered : kept.Sublist headers

theorem mem_dropped_iff {headers : Headers} {name : String} :
    name ∈ headers.connectionNames ++ connectionHeaders ↔ headers.ConcernsConnection name := by
  rw [List.mem_append, mem_connectionNames_iff, or_comm, ConcernsConnection]

theorem mem_endToEnd_iff {headers : Headers} {header : String × Bytes} :
    header ∈ headers.endToEnd ↔ header ∈ headers ∧ ¬ headers.ConcernsConnection header.1 := by
  simp [endToEnd, removeAll, ← mem_dropped_iff]

theorem strippedOf_endToEnd (headers : Headers) : headers.endToEnd.StrippedOf headers where
  dropped name concerns := by rw [all_endToEnd, if_pos (mem_dropped_iff.mpr concerns)]
  others name free := by rw [all_endToEnd, if_neg (mem_dropped_iff.not.mpr free)]
  ordered := List.filter_sublist

/-- Headers that have been stripped name none, so that nothing is left to drop. -/
theorem endToEnd_endToEnd (headers : Headers) : headers.endToEnd.endToEnd = headers.endToEnd := by
  have free : headers.endToEnd.all "connection" = [] := by simp [all_endToEnd, connectionHeaders]
  refine List.filter_eq_self.mpr fun header there => ?_
  obtain ⟨_, apart⟩ := mem_endToEnd_iff.mp there
  simp only [connectionNames, entries, free]
  simpa using fun always => apart (.inl always)

/-- Which headers are dropped is read off nothing but the names that are listed. -/
theorem endToEnd_congr {a b : Headers} (same : a.remove "connection" = b.remove "connection")
    (alike : ∀ name, a.Names name ↔ b.Names name) : a.endToEnd = b.endToEnd := by
  have without (headers : Headers) : headers.endToEnd =
      (headers.remove "connection").removeAll (headers.connectionNames ++ connectionHeaders) := by
    rw [endToEnd, removeAll, removeAll, remove, List.filter_filter]
    refine List.filter_congr fun header _ => ?_
    by_cases marked : header.1 = "connection"
    · simp [marked, connectionHeaders]
    · simp [marked]
  rw [without, without, same]
  refine List.filter_congr ?_
  rintro ⟨name, value⟩ _
  have dropped : name ∈ a.connectionNames ++ connectionHeaders ↔
      name ∈ b.connectionNames ++ connectionHeaders := by
    rw [mem_dropped_iff, mem_dropped_iff, ConcernsConnection, ConcernsConnection, alike]
  rw [← List.contains_iff_mem, ← List.contains_iff_mem, ← Bool.eq_iff_iff] at dropped
  exact congrArg (!·) dropped

/-- Stripping drops the headers that concern one connection only, keeps the others with all their
    values in order, adds none, and leaves nothing to strip. It takes no notice of what is listed
    but can be no name of a header. -/
theorem stripped_exactly (headers : Headers) :
    headers.endToEnd.StrippedOf headers ∧ headers.endToEnd.endToEnd = headers.endToEnd ∧
      ∀ other : Headers, other.remove "connection" = headers.remove "connection" →
        (∀ name, other.Names name ↔ headers.Names name) → other.endToEnd = headers.endToEnd :=
  ⟨strippedOf_endToEnd headers, endToEnd_endToEnd headers, fun _ => endToEnd_congr⟩

/-- A name is read in any case, and an entry that can be no name keeps no other from being read. -/
example : endToEnd [("connection", Bytes.ofAscii "close,no name"), ("x-trace", [0x31]),
    ("accept", [0x2A]), ("te", [0x2A]), ("connection", Bytes.ofAscii " X-Trace\t, x;y"),
    ("accept", [0x2B])] = [("accept", [0x2A]), ("accept", [0x2B])] := by decide +kernel

end Headers
end JobGate
