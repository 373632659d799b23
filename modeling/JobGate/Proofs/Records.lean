import JobGate.Json.Decoder
import JobGate.Proofs.Members
import JobGate.Proofs.Results

/-!
Records that keep what they do not declare. `Decoder.pairs` reads an object as its text has it,
repeated keys included. A `RecordView` tells the declared keys of a record from all others; if
reading one member keeps what the pairs up to it say (`RecordView.Steps`), then a text that decodes
as the record is an object, of which the record holds each declared key once and all other members
as they collapse (`decodeBytes_record`, `decodeBytes_document`).
-/
namespace JobGate

/-- The members of an object as the text has them, repeated keys included. -/
def Decoder.pairs : Decoder (List (String × Json)) := fun room d =>
  match d with
  | .object ms breach => do
    let inner ← room.enter
    let pairs ← Draft.toJsonMembers inner ms
    Draft.stopAt breach
    return pairs
  | d => d.unwanted "a map"

theorem Draft.unwanted_ne_ok {α : Type} (wanted : String) (d : Draft) (a : α) :
    d.unwanted wanted ≠ Except.ok a := by
  intro run
  obtain ⟨found, _, impossible⟩ := bind_ok run
  cases impossible

theorem Draft.unwanted_map {α β : Type} (wanted : String) (d : Draft) (f : α → β) :
    (d.unwanted wanted : Decoded α).map f = d.unwanted wanted := by
  rcases found : d.found with e | there
  · simp [Draft.unwanted, found, bind, Except.bind, Except.map]
  · simp [Draft.unwanted, found, bind, Except.bind, Except.map, throw, throwThe,
      MonadExceptOf.throw]

/-- An object's members are its pairs as they collapse. -/
theorem Decoder.members_eq_pairs (room : Room) (d : Draft) :
    Decoder.members room d = (Decoder.pairs room d).map Members.ofPairs := by
  cases d with
  | object ms breach =>
    rcases entered : room.enter with e | inner
    · simp [Decoder.members, Decoder.pairs, entered, bind, Except.bind, Except.map]
    · rcases taken : Draft.toJsonMembers inner ms with e | pairs
      · simp [Decoder.members, Decoder.pairs, entered, taken, bind, Except.bind, Except.map]
      · rcases ended : Draft.stopAt breach with e | _
        · simp [Decoder.members, Decoder.pairs, entered, taken, ended, bind, Except.bind,
            Except.map]
        · simp [Decoder.members, Decoder.pairs, entered, taken, ended, bind, Except.bind,
            Except.map, pure, Except.pure]
  | _ => exact (Draft.unwanted_map _ _ _).symm

/-- The pairs of an object collapse to the members that it has as a document. -/
theorem Draft.toJson_of_pairs {room : Room} {d : Draft} {pairs : List (String × Json)}
    (read : Decoder.pairs room d = .ok pairs) :
    Draft.toJson room d = .ok (.object (Members.ofPairs pairs)) := by
  cases d with
  | object ms breach =>
    obtain ⟨inner, entered, read⟩ := bind_ok read
    obtain ⟨taken, decoded, read⟩ := bind_ok read
    obtain ⟨_, ended, read⟩ := bind_ok read
    obtain rfl : taken = pairs := Except.ok.inj read
    simp [Draft.toJson, entered, decoded, ended, bind, Except.bind, pure, Except.pure]
  | _ => exact absurd read (Draft.unwanted_ne_ok _ _ _)

/-- What a decoder gives is the document that it read. -/
def Decoder.Faithful {α : Type} (value : Decoder α) (document : α → Json) : Prop :=
  ∀ {room : Room} {d : Draft} {a : α}, value room d = .ok a →
    Draft.toJson room d = .ok (document a)

theorem Decoder.faithful_string : Decoder.Faithful Decoder.string Json.string := by
  intro room d text read
  cases d with
  | string s =>
    have sound : Draft.sound s = .ok text := read
    simp [Draft.toJson, sound, Except.map]
  | _ => exact absurd read (Draft.unwanted_ne_ok _ _ _)

theorem Decoder.faithful_list {α : Type} {item : Decoder α} {document : α → Json}
    (faithful : item.Faithful document) :
    (Decoder.list item).Faithful fun items => .array (items.map document) := by
  have each {room : Room} : ∀ {ds : List Draft} {items : List α},
      Draft.decodeItems (item room) ds = .ok items →
        Draft.toJsonItems room ds = .ok (items.map document) := by
    intro ds
    induction ds with
    | nil =>
      intro items read
      obtain rfl : [] = items := Except.ok.inj read
      rfl
    | cons d rest ih =>
      intro items read
      obtain ⟨a, first, read⟩ := bind_ok read
      obtain ⟨others, more, read⟩ := bind_ok read
      obtain rfl : a :: others = items := Except.ok.inj read
      simp [Draft.toJsonItems, faithful first, ih more, bind, Except.bind, pure, Except.pure]
  intro room d items read
  cases d with
  | array ds breach =>
    obtain ⟨inner, entered, read⟩ := bind_ok read
    obtain ⟨found, decoded, read⟩ := bind_ok read
    obtain ⟨_, ended, read⟩ := bind_ok read
    obtain rfl : found = items := Except.ok.inj read
    simp [Draft.toJson, entered, each decoded, ended, bind, Except.bind, pure, Except.pure]
  | _ => exact absurd read (Draft.unwanted_ne_ok _ _ _)

theorem Decoder.faithful_strings : (Decoder.list Decoder.string).Faithful Json.ofStrings :=
  Decoder.faithful_list Decoder.faithful_string

theorem Decoder.faithful_optional {α : Type} {value : Decoder α} {document : α → Json}
    (faithful : value.Faithful document) :
    (Decoder.optional value).Faithful fun a => (a.map document).getD .null := by
  intro room d a read
  cases d with
  | null =>
    obtain rfl : none = a := Except.ok.inj read
    rfl
  | _ =>
    obtain ⟨found, decoded, rfl⟩ := map_ok read
    exact faithful decoded

theorem ofStrings_injective : Function.Injective Json.ofStrings := by
  intro a b same
  have items : a.map Json.string = b.map Json.string := Json.array.inj same
  exact List.map_injective_iff.mpr (fun _ _ same => Json.string.inj same) items

/-- A slot is filled once. -/
theorem Decoder.once_ok {α : Type} {name : String} {slot filled : Option α} {value : Decoded α}
    (run : Decoder.once name slot value = .ok filled) :
    ∃ a, slot = none ∧ value = .ok a ∧ filled = some a := by
  cases slot with
  | none =>
    obtain ⟨a, decoded, rfl⟩ := map_ok run
    exact ⟨a, rfl, decoded, rfl⟩
  | some earlier => cases run

theorem Decoder.required_ok {α : Type} {name : String} {slot : Option α} {a : α}
    (there : Decoder.required name slot = .ok a) : slot = some a := by
  cases slot with
  | none => cases there
  | some found => rw [Except.ok.inj there]

theorem decodeBytes_eq_ok {α : Type} {value : Decoder α} {plain : Bytes} {a : α} :
    decodeBytes value plain = .ok a ↔
      value textRoom (Document.read plain).draft = .ok a ∧
        (Document.read plain).trailing = false := by
  constructor
  · intro decoded
    obtain ⟨found, read, decoded⟩ := bind_ok decoded
    obtain ⟨alone, decoded⟩ := unless_ok decoded
    obtain rfl : found = a := Except.ok.inj decoded
    exact ⟨read, by simpa using alone⟩
  · rintro ⟨read, alone⟩
    simp [decodeBytes, Document.decode, read, alone, bind, Except.bind, pure, Except.pure]

theorem decodeBytes_json {plain : Bytes} {pairs : List (String × Json)}
    (paired : decodeBytes Decoder.pairs plain = .ok pairs) :
    decodeBytes Decoder.json plain = .ok (.object (Members.ofPairs pairs)) := by
  rw [decodeBytes_eq_ok] at paired ⊢
  exact ⟨Draft.toJson_of_pairs paired.1, paired.2⟩

/-- What a record that is read member by member keeps: at most one value for each of the declared
    keys, and all members with other keys. -/
structure RecordView (σ : Type) where
  declared : List String
  held : σ → String → Option Json
  rest : σ → List (String × Json)

namespace RecordView

variable {σ α : Type} {view : RecordView σ}

/-- What is kept is what the pairs say, each declared key once. -/
structure Keeps (view : RecordView σ) (s : σ) (pairs : List (String × Json)) : Prop where
  held : ∀ name ∈ view.declared,
    pairs.filter (·.1 = name) = (view.held s name).toList.map (name, ·)
  rest : view.rest s = pairs.filter (·.1 ∉ view.declared)

/-- Reading a member adds its pair to what is kept. -/
def Adds (view : RecordView σ) (room : Room) (key : String) (d : Draft) (s t : σ) : Prop :=
  ∃ value, Draft.toJson room d = .ok value ∧
    ∀ pairs, view.Keeps s pairs → view.Keeps t (pairs ++ [(key, value)])

/-- A declared key may be read once, and fills its slot. -/
theorem adds_of_once {value : Decoder α} {document : α → Json}
    (faithful : value.Faithful document) {room : Room} {key : String} {d : Draft}
    {slot filled : Option α} (once : Decoder.once key slot (value room d) = .ok filled) {s t : σ}
    (declared : key ∈ view.declared) (before : view.held s key = slot.map document)
    (after : ∀ name ∈ view.declared,
      view.held t name = if name = key then filled.map document else view.held s name)
    (same : view.rest t = view.rest s) : view.Adds room key d s t := by
  obtain ⟨a, rfl, decoded, rfl⟩ := Decoder.once_ok once
  refine ⟨document a, faithful decoded, fun pairs keeps => ⟨?_, ?_⟩⟩
  · intro name among
    rw [List.filter_append, keeps.held name among, after name among]
    by_cases here : key = name
    · subst here
      simp [before]
    · simp [here, Ne.symm here]
  · rw [same, keeps.rest]
    simp [declared]

theorem adds_of_rest {room : Room} {key : String} {d : Draft} {value : Json}
    (decoded : Decoder.json room d = .ok value) {s t : σ} (other : key ∉ view.declared)
    (same : view.held t = view.held s) (added : view.rest t = view.rest s ++ [(key, value)]) :
    view.Adds room key d s t := by
  refine ⟨value, decoded, fun pairs keeps => ⟨?_, ?_⟩⟩
  · intro name among
    have differs : key ≠ name := fun same => other (same ▸ among)
    rw [same, ← keeps.held name among]
    simp [differs]
  · rw [added, keeps.rest]
    simp [other]

/-- Reading any one member adds it to what is kept. -/
def Steps (view : RecordView σ) (step : Room → σ → String → Draft → Decoded σ) : Prop :=
  ∀ {room : Room} {s t : σ} {key : String} {d : Draft}, step room s key d = .ok t →
    view.Adds room key d s t

/-- Reading members in order adds all of them. -/
theorem foldMembers_ok {step : Room → σ → String → Draft → Decoded σ} (steps : view.Steps step)
    {room : Room} {s t : σ} {ms : List (Except SyntaxError String × Draft)}
    (run : Draft.foldMembers (step room) s ms = .ok t) :
    ∃ pairs, Draft.toJsonMembers room ms = .ok pairs ∧
      ∀ earlier, view.Keeps s earlier → view.Keeps t (earlier ++ pairs) := by
  -- what was kept before the first member stays in front of what the members add
  induction ms generalizing s with
  | nil =>
    obtain rfl : s = t := Except.ok.inj run
    exact ⟨[], rfl, fun earlier keeps => by simpa using keeps⟩
  | cons member ms ih =>
    obtain ⟨key, d⟩ := member
    obtain ⟨name, sound, run⟩ := bind_ok run
    obtain ⟨middle, read, run⟩ := bind_ok run
    obtain ⟨value, decoded, adds⟩ := steps read
    obtain ⟨pairs, taken, all⟩ := ih run
    refine ⟨(name, value) :: pairs, ?_, ?_⟩
    · simp [Draft.toJsonMembers, sound, decoded, taken, bind, Except.bind, pure, Except.pure]
    · intro earlier keeps
      simpa using all _ (adds earlier keeps)

/-- What decodes as a record is an object, and the record keeps what its pairs say. -/
theorem record_ok {step : Room → σ → String → Draft → Decoded σ} (steps : view.Steps step)
    {name : String} {start : σ} {finish : σ → Decoded α} (fresh : view.Keeps start [])
    {room : Room} {d : Draft} {a : α}
    (decoded : Decoder.record name start step finish room d = .ok a) :
    ∃ pairs s, Decoder.pairs room d = .ok pairs ∧ view.Keeps s pairs ∧ finish s = .ok a := by
  cases d with
  | object ms breach =>
    obtain ⟨inner, entered, decoded⟩ := bind_ok decoded
    obtain ⟨s, folded, decoded⟩ := bind_ok decoded
    obtain ⟨_, ended, closed⟩ := bind_ok decoded
    obtain ⟨pairs, taken, all⟩ := foldMembers_ok steps folded
    refine ⟨pairs, s, ?_, by simpa using all [] fresh, closed⟩
    simp [Decoder.pairs, entered, taken, ended, bind, Except.bind, pure, Except.pure]
  | _ => exact absurd decoded (Draft.unwanted_ne_ok _ _ _)

theorem decodeBytes_record {step : Room → σ → String → Draft → Decoded σ}
    (steps : view.Steps step) {name : String} {start : σ} {finish : σ → Decoded α}
    (fresh : view.Keeps start []) {plain : Bytes} {a : α}
    (decoded : decodeBytes (Decoder.record name start step finish) plain = .ok a) :
    ∃ pairs s, decodeBytes Decoder.pairs plain = .ok pairs ∧ view.Keeps s pairs ∧
      finish s = .ok a := by
  simp only [decodeBytes_eq_ok] at decoded ⊢
  obtain ⟨record, alone⟩ := decoded
  obtain ⟨pairs, s, paired, keeps, closed⟩ := record_ok steps fresh record
  exact ⟨pairs, s, ⟨paired, alone⟩, keeps, closed⟩

theorem Keeps.get? {s : σ} {pairs : List (String × Json)} (keeps : view.Keeps s pairs)
    {name : String} (declared : name ∈ view.declared) :
    (Members.ofPairs pairs).get? name = view.held s name := by
  have only := Members.get?_filter (· = name) name (Members.ofPairs pairs)
  rw [← Members.ofPairs_filter (· = name), keeps.held name declared] at only
  rcases held : view.held s name with _ | value
  · simpa [held, Members.ofPairs, Members.get?] using only.symm
  · simpa [held, Members.ofPairs, Members.set, Members.get?] using only.symm

theorem Keeps.without {s : σ} {pairs : List (String × Json)} (keeps : view.Keeps s pairs) :
    Members.ofPairs (view.rest s) = (Members.ofPairs pairs).without view.declared := by
  rw [keeps.rest, Members.without, ← Members.ofPairs_filter (!view.declared.contains ·)]
  simp

/-- A record against the document that its text is: what it holds of the declared keys is what a
    look-up finds, and what it keeps are the other members. -/
theorem decodeBytes_document {step : Room → σ → String → Draft → Decoded σ}
    (steps : view.Steps step) {name : String} {start : σ} {finish : σ → Decoded α}
    (fresh : view.Keeps start []) {plain : Bytes} {a : α}
    (decoded : decodeBytes (Decoder.record name start step finish) plain = .ok a) :
    ∃ (given : Members) (s : σ), decodeBytes Decoder.json plain = .ok (.object given) ∧
      given.keys.Nodup ∧ (∀ name ∈ view.declared, given.get? name = view.held s name) ∧
      Members.ofPairs (view.rest s) = given.without view.declared ∧ finish s = .ok a := by
  obtain ⟨pairs, s, paired, keeps, finished⟩ := decodeBytes_record steps fresh decoded
  exact ⟨Members.ofPairs pairs, s, decodeBytes_json paired, Members.nodup_keys_ofPairs pairs,
    fun name declared => keeps.get? declared, keeps.without, finished⟩

end RecordView

end JobGate
