import JobGate.Proofs.DocumentTexts
import JobGate.Proofs.WireTypes

/-!
Texts of payloads. A job, an identity, a caller and a payload decode from the text of their document
exactly if the document itself does, so a payload is read back exactly if its document is shallow
enough and legible (`Payload.decodeBytes_bytes_iff`). What the text says of the caller's address and
accessor is read as it was written in any case (`Payload.decodeBytes_bytes_ok`).
-/
namespace JobGate
open Json

theorem Job.decoder_asRead_iff {room : Room} {job : Job} :
    Job.decoder room job.toJson.asRead = .ok job ↔
      Draft.toJson room job.toJson.asRead = .ok job.toJson := by
  obtain ⟨members⟩ := job
  simp only [Job.decoder, Decoder.members, Job.toJson, asRead, Draft.toJson, bind, Except.bind]
  rcases room.enter with e | inner
  · simp [Except.map]
  · dsimp only
    rcases Draft.toJsonMembers inner (asReadMembers members) with e | pairs
    · simp [Except.map]
    · simp [Draft.stopAt, Except.map, pure, Except.pure]

theorem asRead_ofStrings (texts : List String) :
    (Json.ofStrings texts).asRead = (Json.ofStrings texts).toDraft := by
  have items : asReadItems (texts.map .string) = draftItems (texts.map .string) := by
    induction texts with
    | nil => rfl
    | cons text texts ih => simp [asReadItems, draftItems, asRead, toDraft, ih]
  simp [Json.ofStrings, asRead, toDraft, items]

/-- A list of texts is read as such where it is read as a document, and fails where that fails. -/
theorem strings_asRead (room : Room) (texts : List String) :
    (∃ e, Decoder.list Decoder.string room (Json.ofStrings texts).asRead = .error e ∧
      Draft.toJson room (Json.ofStrings texts).asRead = .error e) ∨
    Decoder.list Decoder.string room (Json.ofStrings texts).asRead = .ok texts ∧
      Draft.toJson room (Json.ofStrings texts).asRead = .ok (Json.ofStrings texts) := by
  rcases entered : room.enter with e | inner
  · left
    exact ⟨e, by simp [Json.ofStrings, asRead, Decoder.list, entered, bind, Except.bind],
      by simp [Json.ofStrings, asRead, Draft.toJson, entered, bind, Except.bind]⟩
  · right
    refine ⟨?_, (toJson_array_iff entered).mpr ?_⟩
    · rw [asRead_ofStrings]
      exact Decoder.restores_strings entered texts
    · simp [asRead, Draft.toJson, Draft.sound, Except.map]

namespace Identity

/-- Everything declared has been read. -/
structure Slots.Filled (slots : Slots) : Prop where
  accessorId : slots.accessorId ≠ none
  name : slots.name ≠ none
  kind : slots.kind ≠ none
  policies : slots.policies ≠ none

theorem read_declared {room : Room} {slots : Slots} (filled : slots.Filled) {key : String}
    (known : key ∈ declared) (d : Draft) :
    slots.read room key d = .error (.duplicateField key) := by
  have once {α : Type} {slot : Option α} (some : slot ≠ none) (value : Decoded α) :
      Decoder.once key slot value = .error (.duplicateField key) := by
    cases slot with
    | none => exact absurd rfl some
    | some a => rfl
  simp only [declared, List.mem_cons, List.not_mem_nil, or_false] at known
  rcases known with rfl | rfl | rfl | rfl
  · simp [Slots.read, once filled.accessorId, bind, Except.bind]
  · simp [Slots.read, once filled.name, bind, Except.bind]
  · simp [Slots.read, once filled.kind, bind, Except.bind]
  · simp [Slots.read, once filled.policies, bind, Except.bind]

theorem read_other {room : Room} {slots : Slots} {key : String} (other : key ∉ declared)
    (d : Draft) : slots.read room key d = (Draft.toJson room d).map fun v =>
      { slots with other := slots.other ++ [(key, v)] } := by
  simp only [declared, List.mem_cons, List.not_mem_nil, or_false, not_or] at other
  obtain ⟨accessorId, name, kind, policies⟩ := other
  rw [Slots.read, if_neg accessorId, if_neg name, if_neg kind, if_neg policies]
  simp only [Decoder.json, bind, Except.bind]
  cases Draft.toJson room d <;> rfl

/-- Behind the declared members the others are read, none of which may be declared again. -/
theorem foldMembers_iff {room : Room} {slots after : Slots} (filled : slots.Filled)
    (other : Members) :
    Draft.foldMembers (Slots.read room) slots (asReadMembers other) = .ok after ↔
      (∀ key ∈ other.keys, key ∉ declared) ∧
        ∃ pairs, Draft.toJsonMembers room (asReadMembers other) = .ok pairs ∧
          { slots with other := slots.other ++ pairs } = after := by
  induction other generalizing slots with
  | nil => simp [asReadMembers, Draft.foldMembers, Draft.toJsonMembers, Members.keys]
  | cons member other ih =>
    obtain ⟨key, v⟩ := member
    by_cases known : key ∈ declared
    · simp [asReadMembers, Draft.foldMembers, Draft.sound, read_declared filled known, bind,
        Except.bind, Members.keys, known]
    · simp only [asReadMembers, Draft.foldMembers, Draft.toJsonMembers, Draft.sound,
        read_other known, bind, Except.bind]
      rcases Draft.toJson room v.asRead with e | w
      · simp [Except.map]
      · have still : Slots.Filled { slots with other := slots.other ++ [(key, w)] } :=
          ⟨filled.accessorId, filled.name, filled.kind, filled.policies⟩
        simp only [Except.map, ih still]
        rcases Draft.toJsonMembers room (asReadMembers other) with e | pairs
        · simp
        · simp [pure, Except.pure, Members.keys, known]

/-- The declared members of an identity, as they are written. -/
def front (identity : Identity) : Members :=
  [("AccessorID", .string identity.accessorId), ("Name", .string identity.name),
    ("Type", .string identity.kind), ("Policies", Json.ofStrings identity.policies)]

/-- What has been read of an identity behind its declared members. -/
def opened (identity : Identity) : Slots where
  accessorId := some identity.accessorId
  name := some identity.name
  kind := some identity.kind
  policies := some identity.policies

theorem filled_opened (identity : Identity) : identity.opened.Filled :=
  ⟨nofun, nofun, nofun, nofun⟩

/-- The members of an identity have keys of their own exactly if the others are not declared and
    have keys of their own. -/
theorem nodup_members_iff (identity : Identity) :
    (Members.keys (identity.front ++ identity.other)).Nodup ↔
      (∀ key ∈ Members.keys identity.other, key ∉ declared) ∧
        (Members.keys identity.other).Nodup := by
  have names : Members.keys (identity.front ++ identity.other) =
      declared ++ Members.keys identity.other := List.map_append
  have once : declared.Nodup := by decide
  rw [names, List.nodup_append]
  constructor
  · rintro ⟨-, distinct, apart⟩
    exact ⟨fun key there known => apart key known key there rfl, distinct⟩
  · rintro ⟨apart, distinct⟩
    refine ⟨once, distinct, ?_⟩
    rintro key known _ there rfl
    exact apart key there known

section
variable {room inner : Room} {identity : Identity} (entered : room.enter = .ok inner)
include entered

/-- An identity is decoded where its policies are exactly if its other members are read back. -/
theorem decoder_opened_iff (policies : Decoder.list Decoder.string inner
      (Json.ofStrings identity.policies).asRead = .ok identity.policies) :
    decoder room (asRead (.object (identity.front ++ identity.other))) = .ok identity ↔
      (∀ key ∈ Members.keys identity.other, key ∉ declared) ∧
        (Members.keys identity.other).Nodup ∧
          ∀ member ∈ identity.other, Draft.toJson inner member.2.asRead = .ok member.2 := by
  have folded : Draft.foldMembers (Slots.read inner) {}
      (asReadMembers (identity.front ++ identity.other)) =
        Draft.foldMembers (Slots.read inner) identity.opened (asReadMembers identity.other) := by
    simp [front, opened, asReadMembers, asRead, Draft.foldMembers,
      Draft.sound, Slots.read, Decoder.once, Decoder.string, policies, bind, Except.bind,
      Except.map, pure, Except.pure]
  have folding (after : Slots) :
      Draft.foldMembers (Slots.read inner) identity.opened (asReadMembers identity.other) =
          .ok after ↔ _ :=
    foldMembers_iff identity.filled_opened identity.other
  rw [← toJsonMembers_asRead_iff]
  simp only [decoder, Decoder.record, asRead, entered, folded, bind, Except.bind]
  rcases found : Draft.foldMembers (Slots.read inner) identity.opened
    (asReadMembers identity.other) with e | after
  · -- The members were refused, so one of them is declared or is not read back.
    refine iff_of_false (by simp) ?_
    rintro ⟨apart, -, read⟩
    have read := (folding _).mpr ⟨apart, _, read, rfl⟩
    rw [found] at read
    cases read
  · obtain ⟨apart, pairs, read, rfl⟩ := (folding after).mp found
    have whole := ofPairs_asRead_iff read
    obtain ⟨accessorId, name, kind, texts, other⟩ := identity
    simpa [Draft.stopAt, Slots.close, opened, pure, Except.pure, read, whole] using
      fun _ _ => apart

/-- The document of an identity is read back where its policies are exactly if its other members
    are. -/
theorem toJson_opened_iff (policies : Draft.toJson inner
      (Json.ofStrings identity.policies).asRead = .ok (Json.ofStrings identity.policies)) :
    Draft.toJson room identity.toJson.asRead = .ok identity.toJson ↔
      (∀ key ∈ Members.keys identity.other, key ∉ declared) ∧
        (Members.keys identity.other).Nodup ∧
          ∀ member ∈ identity.other, Draft.toJson inner member.2.asRead = .ok member.2 := by
  have texts : ∀ member ∈ identity.front,
      Draft.toJson inner member.2.asRead = .ok member.2 := by
    simp [front, asRead, Draft.toJson, Draft.sound, Except.map, policies]
  rw [show identity.toJson = .object (identity.front ++ identity.other) from rfl,
    toJson_object_iff entered, nodup_members_iff, List.forall_mem_append, and_assoc]
  simp only [and_iff_right texts]

end

/-- An identity decodes from its text exactly if its document does. -/
theorem decoder_asRead_iff {room : Room} {identity : Identity} :
    decoder room identity.toJson.asRead = .ok identity ↔
      Draft.toJson room identity.toJson.asRead = .ok identity.toJson := by
  rcases entered : room.enter with e | inner
  · simp [toJson, asRead, decoder, Decoder.record, Draft.toJson, entered, bind, Except.bind]
  · rcases strings_asRead inner identity.policies with ⟨e, left, right⟩ | ⟨left, right⟩
    · simp [toJson, asRead, asReadMembers, decoder, Decoder.record, Draft.foldMembers,
        Draft.toJson, Draft.toJsonMembers, Draft.sound, Slots.read, Decoder.once, Decoder.string,
        entered, left, right, bind, Except.bind, Except.map, pure, Except.pure]
    · rw [toJson_opened_iff entered right]
      exact decoder_opened_iff entered left

end Identity

/-- An object is read by an optional decoder as by the decoder itself. -/
theorem Decoder.optional_asRead {α : Type} (value : Decoder α) (room : Room) (members : Members) :
    Decoder.optional value room (asRead (.object members)) =
      (value room (asRead (.object members))).map some := rfl

section
variable {room inner : Room} (entered : room.enter = .ok inner)
include entered

theorem Caller.decoder_unidentified (clientIp accessorId : String) :
    decoder room (toJson ⟨clientIp, accessorId, none⟩).asRead =
      .ok ⟨clientIp, accessorId, none⟩ := by
  simp [toJson, asRead, asReadMembers, decoder, Decoder.recordOrList, Decoder.record,
    Draft.foldMembers, Draft.sound, Slots.read, Slots.close, Decoder.once, Decoder.string,
    Draft.stopAt, entered, bind, Except.bind, Except.map, pure, Except.pure]

theorem Caller.decoder_identified (clientIp accessorId : String) (identity : Identity) :
    decoder room (toJson ⟨clientIp, accessorId, some identity⟩).asRead =
      (Identity.decoder inner identity.toJson.asRead).map (⟨clientIp, accessorId, some ·⟩) := by
  have optional : Decoder.optional Identity.decoder inner identity.toJson.asRead =
      (Identity.decoder inner identity.toJson.asRead).map some := Decoder.optional_asRead ..
  cases found : Identity.decoder inner identity.toJson.asRead <;>
    simp [toJson, asRead, asReadMembers, decoder, Decoder.recordOrList, Decoder.record,
      Draft.foldMembers, Draft.sound, Slots.read, Slots.close, Decoder.once, Decoder.string,
      Draft.stopAt, entered, optional, found, bind, Except.bind, Except.map, pure, Except.pure]

theorem Payload.decoder_alone (job : Job) : decoder room (toJson ⟨job, none⟩).asRead =
    (Job.decoder inner job.toJson.asRead).map (⟨·, none⟩) := by
  cases found : Job.decoder inner job.toJson.asRead <;>
    simp [toJson, asRead, asReadMembers, decoder, Decoder.recordOrList, Decoder.record,
      Draft.foldMembers, Draft.sound, Slots.read, Slots.close, Decoder.once, Decoder.required,
      Draft.stopAt, entered, found, bind, Except.bind, Except.map, pure, Except.pure]

theorem Payload.decoder_called (job : Job) (caller : Caller) :
    decoder room (toJson ⟨job, some caller⟩).asRead = do
      let job ← Job.decoder inner job.toJson.asRead
      let caller ← Caller.decoder inner caller.toJson.asRead
      return ⟨job, some caller⟩ := by
  have optional : Decoder.optional Caller.decoder inner caller.toJson.asRead =
      (Caller.decoder inner caller.toJson.asRead).map some := Decoder.optional_asRead ..
  cases found : Job.decoder inner job.toJson.asRead <;>
    cases told : Caller.decoder inner caller.toJson.asRead <;>
      simp [toJson, asRead, asReadMembers, decoder, Decoder.recordOrList, Decoder.record,
        Draft.foldMembers, Draft.sound, Slots.read, Slots.close, Decoder.once, Decoder.required,
        Draft.stopAt, entered, optional, found, told, bind, Except.bind, Except.map, pure,
        Except.pure]

end

/-- A caller decodes from its text exactly if its document does. -/
theorem Caller.decoder_asRead_iff {room : Room} {caller : Caller} :
    decoder room caller.toJson.asRead = .ok caller ↔
      Draft.toJson room caller.toJson.asRead = .ok caller.toJson := by
  obtain ⟨clientIp, accessorId, known⟩ := caller
  rcases entered : room.enter with e | inner
  · simp [toJson, asRead, decoder, Decoder.recordOrList, Decoder.record, Draft.toJson, entered,
      bind, Except.bind]
  · cases known with
    | none =>
      rw [decoder_unidentified entered, toJson, toJson_object_iff entered]
      simp [asRead, Draft.toJson, Draft.sound, Members.keys, Except.map]
    | some identity =>
      have whole : decoder room (toJson ⟨clientIp, accessorId, some identity⟩).asRead =
          .ok ⟨clientIp, accessorId, some identity⟩ ↔
            Identity.decoder inner identity.toJson.asRead = .ok identity := by
        rw [decoder_identified entered]
        cases Identity.decoder inner identity.toJson.asRead <;> simp [Except.map]
      rw [whole, Identity.decoder_asRead_iff, toJson, toJson_object_iff entered]
      simp [asRead, Draft.toJson, Draft.sound, Members.keys, Except.map]

/-- A payload decodes from its text exactly if its document does. -/
theorem Payload.decoder_asRead_iff {room : Room} {payload : Payload} :
    decoder room payload.toJson.asRead = .ok payload ↔
      Draft.toJson room payload.toJson.asRead = .ok payload.toJson := by
  obtain ⟨job, known⟩ := payload
  rcases entered : room.enter with e | inner
  · simp [toJson, asRead, decoder, Decoder.recordOrList, Decoder.record, Draft.toJson, entered,
      bind, Except.bind]
  · cases known with
    | none =>
      have whole : decoder room (toJson ⟨job, none⟩).asRead = .ok ⟨job, none⟩ ↔
          Job.decoder inner job.toJson.asRead = .ok job := by
        rw [decoder_alone entered]
        cases Job.decoder inner job.toJson.asRead <;> simp [Except.map]
      rw [whole, Job.decoder_asRead_iff, toJson, toJson_object_iff entered]
      simp [Members.keys]
    | some caller =>
      have whole : decoder room (toJson ⟨job, some caller⟩).asRead = .ok ⟨job, some caller⟩ ↔
          Job.decoder inner job.toJson.asRead = .ok job ∧
            Caller.decoder inner caller.toJson.asRead = .ok caller := by
        rw [decoder_called entered]
        cases Job.decoder inner job.toJson.asRead <;>
          cases Caller.decoder inner caller.toJson.asRead <;>
            simp [bind, Except.bind, pure, Except.pure]
      rw [whole, Job.decoder_asRead_iff, Caller.decoder_asRead_iff, toJson,
        toJson_object_iff entered]
      simp [Members.keys]

/-- A payload decodes from its text as itself exactly if its document is nested no deeper than a
    text may be and is legible. -/
theorem Payload.decodeBytes_bytes_iff (payload : Payload) :
    decodeBytes Payload.decoder payload.toJson.bytes = .ok payload ↔
      payload.toJson.depth ≤ 127 ∧ payload.toJson.Legible := by
  rw [decodeBytes_bytes, Payload.decoder_asRead_iff]
  exact toJson_asRead_iff payload.toJson 127

/-- Whatever caller is read, its address and its accessor are those that were written. -/
theorem Caller.decoder_asRead_ok {room : Room} {caller found : Caller}
    (read : decoder room caller.toJson.asRead = .ok found) :
    found.clientIp = caller.clientIp ∧ found.accessorId = caller.accessorId := by
  obtain ⟨inner, entered, -⟩ := Decoder.recordOrList_ok read
  obtain ⟨clientIp, accessorId, known⟩ := caller
  cases known with
  | none =>
    rw [decoder_unidentified entered] at read
    obtain rfl := Except.ok.inj read
    exact ⟨rfl, rfl⟩
  | some identity =>
    rw [decoder_identified entered] at read
    obtain ⟨_, _, rfl⟩ := map_ok read
    exact ⟨rfl, rfl⟩

/-- Whatever payload is read from the text of one, it has a caller exactly if that has one, with the
    same address and the same accessor. -/
theorem Payload.decodeBytes_bytes_ok {payload found : Payload}
    (read : decodeBytes decoder payload.toJson.bytes = .ok found) :
    found.caller.map (·.clientIp) = payload.caller.map (·.clientIp) ∧
      found.caller.map (·.accessorId) = payload.caller.map (·.accessorId) := by
  rw [decodeBytes_bytes] at read
  obtain ⟨inner, entered, -⟩ := Decoder.recordOrList_ok read
  obtain ⟨job, known⟩ := payload
  cases known with
  | none =>
    rw [decoder_alone entered] at read
    obtain ⟨_, _, rfl⟩ := map_ok read
    exact ⟨rfl, rfl⟩
  | some caller =>
    rw [decoder_called entered] at read
    obtain ⟨_, _, read⟩ := bind_ok read
    obtain ⟨other, told, read⟩ := bind_ok read
    obtain rfl := Except.ok.inj read
    obtain ⟨address, accessor⟩ := Caller.decoder_asRead_ok told
    exact ⟨congrArg some address, congrArg some accessor⟩

end JobGate
