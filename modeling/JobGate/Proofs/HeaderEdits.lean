import JobGate.Gateway.Forwarding

/-!
What edits of headers leave of the values of each name. A name keeps all its values in order unless
the edit names it (`Headers.all_removeAll`, `Headers.all_put`), so that what is said about one name,
such as how a body is compressed, survives the edits of the others
(`Headers.declaresGzip_announceLength`, `Headers.declaresGzip_endToEnd`).
-/
namespace JobGate
namespace Headers

@[simp] theorem all_append (name : String) (a b : Headers) :
    all name (a ++ b) = all name a ++ all name b := by
  rw [all, List.filterMap_append]
  rfl

theorem all_singleton (name other : String) (value : Bytes) :
    all other [(name, value)] = if other = name then [value] else [] := by
  by_cases same : name = other
  · simp [all, same]
  · simp [all, same, Ne.symm same]

/-- Dropping headers by their names takes all values of a name or none. -/
theorem all_filter (keep : String → Bool) (name : String) (headers : Headers) :
    all name (headers.filter fun header => keep header.1) =
      if keep name then headers.all name else [] := by
  induction headers with
  | nil => simp [all]
  | cons header rest ih =>
    simp only [all] at ih ⊢
    by_cases same : header.1 = name
    · rcases kept : keep name
      · simp [same, kept, ih]
      · simp [same, kept, ih]
    · rcases kept : keep header.1
      · simp [kept, same, ih]
      · simp [kept, same, ih]

@[simp] theorem all_remove (name other : String) (headers : Headers) :
    (headers.remove name).all other = if other = name then [] else headers.all other := by
  rw [remove, all_filter (fun n => decide (n ≠ name))]
  by_cases same : other = name
  · simp [same]
  · simp [same]

theorem all_removeAll (names : List String) (name : String) (headers : Headers) :
    (headers.removeAll names).all name = if name ∈ names then [] else headers.all name := by
  rw [removeAll, all_filter (fun n => !names.contains n)]
  by_cases named : name ∈ names
  · simp [named]
  · simp [named]

@[simp] theorem all_put (name other : String) (value : Bytes) (headers : Headers) :
    (headers.put name value).all other = if other = name then [value] else headers.all other := by
  rw [put, all_append, all_remove, all_singleton]
  by_cases same : other = name
  · simp [same]
  · simp [same]

@[simp] theorem remove_put (name : String) (value : Bytes) (headers : Headers) :
    (headers.put name value).remove name = headers.remove name := by
  simp [put, remove, List.filter_append, List.filter_filter]

theorem remove_of_all_eq_nil {name : String} {headers : Headers} (absent : headers.all name = []) :
    headers.remove name = headers := by
  refine List.filter_eq_self.mpr fun header there => ?_
  have other := List.filterMap_eq_nil_iff.mp absent header there
  simpa using other

theorem all_announceLength (length : Nat) (name : String) (headers : Headers) :
    (headers.announceLength length).all name =
      if name = "content-length" then [Bytes.ofAscii (toString length)]
      else if name = "transfer-encoding" then [] else headers.all name := by
  rw [announceLength, all_put, all_remove]

/-- Whether a body is compressed is read off the values of one name. -/
theorem declaresGzip_congr {a b : Headers}
    (same : a.all "content-encoding" = b.all "content-encoding") :
    a.declaresGzip = b.declaresGzip := by
  rw [declaresGzip, declaresGzip, entries, entries, same]

theorem declaresGzip_announceLength (length : Nat) (headers : Headers) :
    (headers.announceLength length).declaresGzip = headers.declaresGzip :=
  declaresGzip_congr (by simp [all_announceLength])

theorem firstText?_congr {name : String} {a b : Headers} (same : a.all name = b.all name) :
    a.firstText? name = b.firstText? name := by
  rw [firstText?, firstText?, first?, first?, same]

/-- Which headers a message names as concerning one connection is read off one name. -/
theorem connectionNames_congr {a b : Headers} (same : a.all "connection" = b.all "connection") :
    a.connectionNames = b.connectionNames := by
  rw [connectionNames, connectionNames, entries, entries, same]

theorem connectionNames_announceLength (length : Nat) (headers : Headers) :
    (headers.announceLength length).connectionNames = headers.connectionNames :=
  connectionNames_congr (by simp [all_announceLength])

theorem all_endToEnd (name : String) (headers : Headers) :
    headers.endToEnd.all name =
      if name ∈ headers.connectionNames ++ connectionHeaders then [] else headers.all name :=
  all_removeAll _ _ _

/-- How a body is compressed survives the dropping of headers unless the message names the header
    that says so. -/
theorem declaresGzip_endToEnd {headers : Headers}
    (kept : "content-encoding" ∉ headers.connectionNames) :
    headers.endToEnd.declaresGzip = headers.declaresGzip :=
  declaresGzip_congr (by simp [all_endToEnd, kept, connectionHeaders])

theorem declaresGzip_eq_false {headers : Headers}
    (unmarked : headers.all "content-encoding" = []) : headers.declaresGzip = false := by
  simp [declaresGzip, entries, unmarked]

/-- The coding of the transfer concerns one connection only. -/
theorem all_transferEncoding_endToEnd (headers : Headers) :
    headers.endToEnd.all "transfer-encoding" = [] := by
  simp [all_endToEnd, connectionHeaders]

/-- The chain of addresses with one more at its end; a first line that is no visible text is
    dropped. -/
def extendedChain (address : String) (headers : Headers) : String :=
  match headers.firstText? forwardingHeader with
  | some earlier => String.ofList earlier ++ ", " ++ address
  | none => address

theorem all_addHop (address name : String) (headers : Headers) :
    (headers.addHop address).all name =
      if name = forwardingHeader then [Bytes.ofAscii (headers.extendedChain address)]
      else headers.all name :=
  all_put _ _ _ _

end Headers
end JobGate
