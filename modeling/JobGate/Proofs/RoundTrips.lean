import JobGate.Proofs.TokenDescriptions

/-!
Values written and read again. A document that came out of a text reads back as itself
(`Json.readsBack_of_toJson`), which settles the members that a record keeps without looking at
them: a record whose declared members read back does so with all others behind them
(`RecordView.Appends.record`). What stood in the text stands in what is written, the declared
members first (`RecordView.Keeps.laid`).
-/
namespace JobGate

/-- The document reads as itself, with this much room. -/
def Json.ReadsBack (room : Room) (v : Json) : Prop := Draft.toJson room v.toDraft = .ok v

namespace Members

/-- All values of the members read as themselves. -/
def ReadBack (room : Room) (members : Members) : Prop :=
  ∀ member ∈ members, member.2.ReadsBack room

theorem toJsonMembers_drafts {room : Room} {members : Members} (back : members.ReadBack room) :
    Draft.toJsonMembers room (Json.draftMembers members) = .ok members := by
  induction members with
  | nil => rfl
  | cons member rest ih =>
    obtain ⟨k, v⟩ := member
    have first : Draft.toJson room v.toDraft = .ok v := back (k, v) (.head _)
    have later := ih fun member there => back member (.tail _ there)
    simp [Json.draftMembers, Draft.toJsonMembers, Draft.sound, first, later, bind, Except.bind,
      pure, Except.pure]

end Members

namespace Json

theorem toJsonItems_drafts {room : Room} {items : List Json}
    (back : ∀ item ∈ items, item.ReadsBack room) :
    Draft.toJsonItems room (draftItems items) = .ok items := by
  induction items with
  | nil => rfl
  | cons item rest ih =>
    have first : Draft.toJson room item.toDraft = .ok item := back item (.head _)
    have later := ih fun item there => back item (.tail _ there)
    simp [draftItems, Draft.toJsonItems, first, later, bind, Except.bind, pure, Except.pure]

mutual
/-- What a text was read as reads as itself. -/
theorem readsBack_of_toJson : ∀ (d : Draft) {room : Room} {v : Json},
    Draft.toJson room d = .ok v → v.ReadsBack room
  | .null, room, v, read => by
    obtain rfl : Json.null = v := Except.ok.inj read
    rfl
  | .bool b, room, v, read => by
    obtain rfl : Json.bool b = v := Except.ok.inj read
    rfl
  | .number n, room, v, read => by
    obtain ⟨found, _, rfl⟩ := map_ok read
    rfl
  | .string s, room, v, read => by
    obtain ⟨found, _, rfl⟩ := map_ok read
    rfl
  | .array ds breach, room, v, read => by
    obtain ⟨inner, entered, read⟩ := bind_ok read
    obtain ⟨items, taken, read⟩ := bind_ok read
    obtain ⟨_, _, read⟩ := bind_ok read
    obtain rfl : Json.array items = v := Except.ok.inj read
    have again := toJsonItems_drafts (readsBack_items ds taken)
    simp [ReadsBack, toDraft, Draft.toJson, entered, again, Draft.stopAt, bind, Except.bind, pure,
      Except.pure]
  | .object ms breach, room, v, read => by
    obtain ⟨inner, entered, read⟩ := bind_ok read
    obtain ⟨pairs, taken, read⟩ := bind_ok read
    obtain ⟨_, _, read⟩ := bind_ok read
    obtain rfl : Json.object (Members.ofPairs pairs) = v := Except.ok.inj read
    have back : (Members.ofPairs pairs).ReadBack inner := fun member there =>
      readsBack_members ms taken member (Members.mem_of_mem_ofPairs there)
    have again := Members.toJsonMembers_drafts back
    simp [ReadsBack, toDraft, Draft.toJson, entered, again, Draft.stopAt, bind, Except.bind, pure,
      Except.pure]
  | .broken b, room, v, read => by cases read
theorem readsBack_items : ∀ (ds : List Draft) {room : Room} {items : List Json},
    Draft.toJsonItems room ds = .ok items → ∀ item ∈ items, item.ReadsBack room
  | [], room, items, read => by
    obtain rfl : [] = items := Except.ok.inj read
    exact nofun
  | d :: rest, room, items, read => by
    obtain ⟨v, first, read⟩ := bind_ok read
    obtain ⟨vs, later, read⟩ := bind_ok read
    obtain rfl : v :: vs = items := Except.ok.inj read
    intro item there
    rcases List.mem_cons.mp there with rfl | among
    · exact readsBack_of_toJson d first
    · exact readsBack_items rest later item among
theorem readsBack_members : ∀ (ms : List (Except SyntaxError String × Draft)) {room : Room}
    {pairs : List (String × Json)},
    Draft.toJsonMembers room ms = .ok pairs → ∀ pair ∈ pairs, pair.2.ReadsBack room
  | [], room, pairs, read => by
    obtain rfl : [] = pairs := Except.ok.inj read
    exact nofun
  | (key, d) :: rest, room, pairs, read => by
    obtain ⟨name, _, read⟩ := bind_ok read
    obtain ⟨v, first, read⟩ := bind_ok read
    obtain ⟨more, later, read⟩ := bind_ok read
    obtain rfl : (name, v) :: more = pairs := Except.ok.inj read
    intro pair there
    rcases List.mem_cons.mp there with rfl | among
    · exact readsBack_of_toJson d first
    · exact readsBack_members rest later pair among
end

end Json

/-- There is room for this many arrays and objects inside one another. -/
def Room.Holds (levels : Nat) (room : Room) : Prop := ∀ n, room = some n → levels ≤ n

theorem Room.Holds.enter {levels : Nat} {room : Room} (holds : room.Holds (levels + 1)) :
    ∃ inner, room.enter = .ok inner ∧ Room.Holds levels inner := by
  match room with
  | none => exact ⟨none, rfl, nofun⟩
  | some 0 => exact absurd (holds 0 rfl) (by omega)
  | some (n + 1) =>
    refine ⟨some n, rfl, fun m same => ?_⟩
    obtain rfl : n = m := Option.some.inj same
    have := holds (n + 1) rfl
    omega

/-- The document of a value decodes as the value, with this much room. -/
def Decoder.Restores {α : Type} (value : Decoder α) (document : α → Json) (room : Room) (a : α) :
    Prop :=
  value room (document a).toDraft = .ok a

theorem Job.restores {room : Room} {job : Job} (back : job.toJson.ReadsBack room) :
    Job.decoder.Restores Job.toJson room job := by
  obtain ⟨inner, entered, back⟩ := bind_ok back
  obtain ⟨pairs, taken, back⟩ := bind_ok back
  obtain ⟨_, _, back⟩ := bind_ok back
  have same : Members.ofPairs pairs = job.members := Json.object.inj (Except.ok.inj back)
  simp [Decoder.Restores, Job.decoder, Job.toJson, Json.toDraft, Decoder.members, entered, taken,
    same, Draft.stopAt, bind, Except.bind, pure, Except.pure, Except.map]

theorem Job.readsBack_decoder {room : Room} {d : Draft} {job : Job}
    (read : Job.decoder room d = .ok job) : job.toJson.ReadsBack room := by
  cases d with
  | object ms breach =>
    obtain ⟨members, taken, rfl⟩ := map_ok read
    refine Json.readsBack_of_toJson (.object ms breach) ?_
    obtain ⟨inner, entered, taken⟩ := bind_ok taken
    obtain ⟨pairs, decoded, taken⟩ := bind_ok taken
    obtain ⟨_, sound, taken⟩ := bind_ok taken
    obtain rfl : Members.ofPairs pairs = members := Except.ok.inj taken
    simp [Draft.toJson, Job.toJson, entered, decoded, sound, bind, Except.bind, pure, Except.pure]
  | _ =>
    obtain ⟨_, taken, _⟩ := map_ok read
    exact absurd taken (Draft.unwanted_ne_ok _ _ _)

theorem Job.restores_decoder {room : Room} {d : Draft} {job : Job}
    (read : Job.decoder room d = .ok job) : Job.decoder.Restores Job.toJson room job :=
  restores (readsBack_decoder read)

theorem Decoder.restores_strings {room inner : Room} (entered : room.enter = .ok inner)
    (texts : List String) :
    (Decoder.list Decoder.string).Restores Json.ofStrings room texts := by
  have each : Draft.decodeItems (Decoder.string inner) (Json.draftItems (texts.map .string)) =
      .ok texts := by
    induction texts with
    | nil => rfl
    | cons text rest ih =>
      simp [Json.draftItems, Draft.decodeItems, Json.toDraft, Decoder.string, Draft.sound, ih, bind,
        Except.bind, pure, Except.pure]
  simp [Restores, Json.ofStrings, Json.toDraft, Decoder.list, entered, each, Draft.stopAt, bind,
    Except.bind, pure, Except.pure]

theorem Decoder.optional_ok {α : Type} {value : Decoder α} {room : Room} {d : Draft} {a : α}
    (read : Decoder.optional value room d = .ok (some a)) : value room d = .ok a := by
  cases d with
  | null => cases read
  | _ =>
    obtain ⟨found, decoded, same⟩ := map_ok read
    rw [decoded, Option.some.inj same]

/-- An object is read by an optional decoder as by the decoder itself. -/
theorem Decoder.optional_object {α : Type} (value : Decoder α) (room : Room) (members : Members) :
    Decoder.optional value room (Json.object members).toDraft =
      (value room (Json.object members).toDraft).map some := rfl

/-- An object opens a level, and its values read back inside. -/
theorem Decoder.pairs_ok {room : Room} {d : Draft} {pairs : List (String × Json)}
    (read : Decoder.pairs room d = .ok pairs) :
    ∃ inner, room.enter = .ok inner ∧ Members.ReadBack inner pairs := by
  cases d with
  | object ms breach =>
    obtain ⟨inner, entered, read⟩ := bind_ok read
    obtain ⟨taken, decoded, read⟩ := bind_ok read
    obtain ⟨_, _, read⟩ := bind_ok read
    obtain rfl : taken = pairs := Except.ok.inj read
    exact ⟨inner, entered, Json.readsBack_members ms decoded⟩
  | _ => exact absurd read (Draft.unwanted_ne_ok _ _ _)

theorem Draft.foldMembers_append {σ : Type} (step : σ → String → Draft → Decoded σ) (s : σ)
    (a b : List (Except SyntaxError String × Draft)) :
    foldMembers step s (a ++ b) = (foldMembers step s a >>= fun t => foldMembers step t b) := by
  induction a generalizing s with
  | nil => rfl
  | cons member rest ih =>
    obtain ⟨key, d⟩ := member
    simp [foldMembers, ih]

theorem Json.draftMembers_append (a b : Members) :
    draftMembers (a ++ b) = draftMembers a ++ draftMembers b := by
  induction a with
  | nil => rfl
  | cons member rest ih =>
    obtain ⟨key, value⟩ := member
    simp [draftMembers, ih]

/-- Members that stand beside declared ones: other keys, with values that read back. -/
structure Members.Beside (declared : List String) (room : Room) (rest : Members) : Prop where
  undeclared : ∀ member ∈ rest, member.1 ∉ declared
  back : rest.ReadBack room

namespace RecordView

variable {σ α : Type} {view : RecordView σ}

theorem Keeps.mem_rest {s : σ} {pairs : List (String × Json)} (keeps : view.Keeps s pairs)
    {member : String × Json} (there : member ∈ Members.ofPairs (view.rest s)) :
    member ∈ pairs ∧ member.1 ∉ view.declared := by
  have kept := Members.mem_of_mem_ofPairs there
  rw [keeps.rest] at kept
  simpa using kept

theorem Keeps.mem_of_held {s : σ} {pairs : List (String × Json)} (keeps : view.Keeps s pairs)
    {name : String} (declared : name ∈ view.declared) {value : Json}
    (held : view.held s name = some value) : (name, value) ∈ pairs := by
  have among : (name, value) ∈ pairs.filter (·.1 = name) := by
    rw [keeps.held name declared, held]
    simp
  exact (List.mem_filter.mp among).1

theorem Keeps.beside {s : σ} {pairs : List (String × Json)} (keeps : view.Keeps s pairs)
    {inner : Room} (back : Members.ReadBack inner pairs) :
    Members.Beside view.declared inner (Members.ofPairs (view.rest s)) where
  undeclared _ there := (keeps.mem_rest there).2
  back member there := back member (keeps.mem_rest there).1

/-- A record that was read, from the inside: what it keeps of the pairs reads back, and the members
    that it does not declare can stand beside those that it does. -/
theorem record_opened {step : Room → σ → String → Draft → Decoded σ} (steps : view.Steps step)
    {name : String} {start : σ} {finish : σ → Decoded α} (fresh : view.Keeps start [])
    {room : Room} {d : Draft} {a : α}
    (read : Decoder.record name start step finish room d = .ok a) :
    ∃ inner pairs s, room.enter = .ok inner ∧ Decoder.pairs room d = .ok pairs ∧
      view.Keeps s pairs ∧ finish s = .ok a ∧ Members.ReadBack inner pairs ∧
      Members.Beside view.declared inner (Members.ofPairs (view.rest s)) := by
  obtain ⟨pairs, s, paired, keeps, closed⟩ := view.record_ok steps fresh read
  obtain ⟨inner, entered, back⟩ := Decoder.pairs_ok paired
  exact ⟨inner, pairs, s, entered, paired, keeps, closed, back, keeps.beside back⟩

/-- Reading members that are not declared puts them behind those read before. -/
structure Appends (view : RecordView σ) (step : Room → σ → String → Draft → Decoded σ)
    (keep : σ → Members → σ) : Prop where
  nil : ∀ s, keep s [] = s
  append : ∀ s a b, keep (keep s a) b = keep s (a ++ b)
  step : ∀ {room : Room} {s : σ} {key : String} {value : Json}, key ∉ view.declared →
    value.ReadsBack room → step room s key value.toDraft = .ok (keep s [(key, value)])

theorem Appends.foldMembers {step : Room → σ → String → Draft → Decoded σ}
    {keep : σ → Members → σ} (appends : view.Appends step keep) {room : Room} {rest : Members}
    (undeclared : ∀ member ∈ rest, member.1 ∉ view.declared) (back : rest.ReadBack room) (s : σ) :
    Draft.foldMembers (step room) s (Json.draftMembers rest) = .ok (keep s rest) := by
  induction rest generalizing s with
  | nil => simp [Json.draftMembers, Draft.foldMembers, appends.nil]
  | cons member rest ih =>
    obtain ⟨key, value⟩ := member
    have first := appends.step (s := s) (undeclared (key, value) (.head _)) (back _ (.head _))
    have later := ih (fun member there => undeclared member (.tail _ there))
      (fun member there => back member (.tail _ there)) (keep s [(key, value)])
    rw [appends.append] at later
    simpa [Json.draftMembers, Draft.foldMembers, Draft.sound, first, bind, Except.bind] using later

/-- A record is read from its declared members and those beside them. -/
theorem Appends.record {step : Room → σ → String → Draft → Decoded σ} {keep : σ → Members → σ}
    (appends : view.Appends step keep) {name : String} {start s : σ} {finish : σ → Decoded α}
    {room inner : Room} (entered : room.enter = .ok inner) {front rest : Members}
    (opened : Draft.foldMembers (step inner) start (Json.draftMembers front) = .ok s)
    (beside : Members.Beside view.declared inner rest) {a : α}
    (closed : finish (keep s rest) = .ok a) :
    Decoder.record name start step finish room (Json.object (front ++ rest)).toDraft = .ok a := by
  have behind := appends.foldMembers beside.undeclared beside.back s
  simp [Decoder.record, Json.toDraft, Json.draftMembers_append, Draft.foldMembers_append, entered,
    opened, behind, closed, Draft.stopAt, bind, Except.bind]

/-- Where the members of a text stand in a document: first the declared ones in their order, each
    with its value in the text or else its default, then all others, each at its first place and
    with its last value; no key stands twice. -/
structure Laid (fields : List (String × Option Json)) (pairs : List (String × Json))
    (front rest : Members) : Prop where
  declared : List.Forall₂ (fun field member => member.1 = field.1 ∧
    (Members.get? field.1 pairs).or field.2 = some member.2) fields front
  others : Members.Collapse (pairs.filter (·.1 ∉ fields.map (·.1))) rest
  once : (Members.keys (front ++ rest)).Nodup

theorem Keeps.get?_pairs {s : σ} {pairs : List (String × Json)} (keeps : view.Keeps s pairs)
    {name : String} (declared : name ∈ view.declared) :
    Members.get? name pairs = view.held s name := by
  have only := Members.get?_filter (· = name) name pairs
  rw [keeps.held name declared] at only
  rcases held : view.held s name with _ | value
  · simpa [held, Members.get?] using only.symm
  · simpa [held, Members.get?] using only.symm

theorem Keeps.laid {s : σ} {pairs : List (String × Json)} (keeps : view.Keeps s pairs)
    {fields : List (String × Option Json)} (names : view.declared = fields.map (·.1))
    (distinct : view.declared.Nodup) {front : Members}
    (filled : List.Forall₂ (fun field member => member.1 = field.1 ∧
      (view.held s field.1).or field.2 = some member.2) fields front) :
    Laid fields pairs front (Members.ofPairs (view.rest s)) := by
  have inOrder : front.keys = fields.map (·.1) := by
    clear names
    induction filled with
    | nil => rfl
    | cons both _ ih =>
      rw [List.map_cons, ← ih, ← both.1]
      rfl
  refine ⟨?_, ?_, ?_⟩
  · have known : ∀ field ∈ fields, field.1 ∈ view.declared := by
      intro field among
      rw [names]
      exact List.mem_map_of_mem among
    clear names inOrder
    induction filled with
    | nil => exact .nil
    | @cons field member _ _ both _ ih =>
      refine .cons ?_ (ih fun other among => known other (.tail _ among))
      rw [keeps.get?_pairs (known field (.head _))]
      exact both
  · rw [← names, ← keeps.rest]
    exact Members.collapse_ofPairs _
  · rw [Members.keys, List.map_append]
    refine List.Nodup.append ?_ (Members.nodup_keys_ofPairs _) ?_
    · change front.keys.Nodup
      rw [inOrder, ← names]
      exact distinct
    · intro key infront behind
      obtain ⟨member, there, rfl⟩ := List.mem_map.mp behind
      apply (keeps.mem_rest there).2
      rw [names, ← inOrder]
      exact infront

end RecordView

end JobGate
