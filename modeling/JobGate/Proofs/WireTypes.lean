import JobGate.Proofs.RoundTrips

/-!
Envelopes, identities and payloads, written and read again. What decodes as one of them reads back
as the same from its own document (`decoder_ok` and `restores_decoder` of each type), be it an
object or a list in the text, and whatever it leaves to its defaults. So nothing is lost
(`written_without_loss`), and the envelopes and identities keep all members of their texts, with
the declared ones in front.
-/
namespace JobGate

open RecordView (Laid)

namespace Submission

def fields : List (String × Option Json) := [("Job", none)]

/-- What has been read, with more members beside the job. -/
def Slots.keep (slots : Slots) (members : Members) : Slots :=
  { slots with rest := slots.rest ++ members }

theorem appends_read : view.Appends Slots.read Slots.keep where
  nil slots := by simp [Slots.keep]
  append slots a b := by simp [Slots.keep]
  step := by
    intro room slots key value other back
    have notJob : key ≠ "Job" := by simpa [view] using other
    have read : Decoder.json room value.toDraft = .ok value := back
    simp [Slots.read, notJob, read, Slots.keep, bind, Except.bind, pure, Except.pure]

theorem decoder_ok {room : Room} {d : Draft} {submission : Submission}
    (read : decoder room d = .ok submission) :
    decoder.Restores toJson room submission ∧
      ∃ pairs, Decoder.pairs room d = .ok pairs ∧
        Laid fields pairs [("Job", submission.job.toJson)] submission.rest := by
  have fresh : view.Keeps {} [] := ⟨by simp [view], rfl⟩
  obtain ⟨inner, pairs, slots, entered, paired, keeps, closed, back, beside⟩ :=
    view.record_opened steps_read fresh read
  obtain ⟨job, there, closed⟩ := bind_ok closed
  obtain rfl : ⟨job, Members.ofPairs slots.rest⟩ = submission := Except.ok.inj closed
  have held : slots.job = some job := Decoder.required_ok there
  constructor
  · have stands : ("Job", job.toJson) ∈ pairs :=
      keeps.mem_of_held (by simp [view]) (by simp [view, held])
    have again : Job.decoder inner job.toJson.toDraft = .ok job := Job.restores (back _ stands)
    have opened : Draft.foldMembers (Slots.read inner) {} (Json.draftMembers [("Job", job.toJson)]) =
        .ok { job := some job } := by
      simp [Json.draftMembers, Draft.foldMembers, Slots.read, Decoder.once, again, Draft.sound, bind,
        Except.bind, pure, Except.pure, Except.map]
    refine appends_read.record entered opened beside ?_
    simp [view, Slots.keep, Slots.close, Decoder.required, bind, Except.bind, pure, Except.pure]
  · refine ⟨pairs, paired, keeps.laid rfl (by simp [view]) ?_⟩
    refine .cons ⟨rfl, ?_⟩ .nil
    simp [view, held]

end Submission

namespace JobReply

def fields : List (String × Option Json) := [("Warnings", some (.string ""))]

/-- What has been read, with more members beside the warnings. -/
def Slots.keep (slots : Slots) (members : Members) : Slots :=
  { slots with rest := slots.rest ++ members }

theorem appends_read : view.Appends Slots.read Slots.keep where
  nil slots := by simp [Slots.keep]
  append slots a b := by simp [Slots.keep]
  step := by
    intro room slots key value other back
    have notWarnings : key ≠ "Warnings" := by simpa [view] using other
    have read : Decoder.json room value.toDraft = .ok value := back
    simp [Slots.read, notWarnings, read, Slots.keep, bind, Except.bind, pure, Except.pure]

theorem decoder_ok {room : Room} {d : Draft} {reply : JobReply} (read : decoder room d = .ok reply) :
    decoder.Restores toJson room reply ∧
      ∃ pairs, Decoder.pairs room d = .ok pairs ∧
        Laid fields pairs [("Warnings", .string reply.warnings)] reply.rest := by
  have fresh : view.Keeps {} [] := ⟨by simp [view], rfl⟩
  obtain ⟨inner, pairs, slots, entered, paired, keeps, closed, back, beside⟩ :=
    view.record_opened steps_read fresh read
  obtain rfl : ⟨slots.warnings.getD "", Members.ofPairs slots.rest⟩ = reply := Except.ok.inj closed
  constructor
  · have beside := keeps.beside back
    have opened : Draft.foldMembers (Slots.read inner) {}
        (Json.draftMembers [("Warnings", .string (slots.warnings.getD ""))]) =
        .ok { warnings := some (slots.warnings.getD "") } := by
      simp [Json.draftMembers, Draft.foldMembers, Slots.read, Decoder.once, Decoder.string,
        Json.toDraft, Draft.sound, bind, Except.bind, pure, Except.pure, Except.map]
    refine appends_read.record entered opened beside ?_
    simp [view, Slots.keep, Slots.close, pure, Except.pure]
  · refine ⟨pairs, paired, keeps.laid rfl (by simp [view]) ?_⟩
    refine .cons ⟨rfl, ?_⟩ .nil
    cases given : slots.warnings <;> simp [view, given]

end JobReply

namespace ValidationReply

def fields : List (String × Option Json) :=
  [("Warnings", some (.string "")), ("ValidationErrors", some .null), ("Error", some (.string ""))]

/-- What has been read, with more members beside the warnings and errors. -/
def Slots.keep (slots : Slots) (members : Members) : Slots :=
  { slots with rest := slots.rest ++ members }

theorem appends_read : view.Appends Slots.read Slots.keep where
  nil slots := by simp [Slots.keep]
  append slots a b := by simp [Slots.keep]
  step := by
    intro room slots key value other back
    obtain ⟨notWarnings, notErrors, notError⟩ :
        key ≠ "Warnings" ∧ key ≠ "ValidationErrors" ∧ key ≠ "Error" := by simpa [view] using other
    have read : Decoder.json room value.toDraft = .ok value := back
    simp [Slots.read, notWarnings, notErrors, notError, read, Slots.keep, bind, Except.bind, pure,
      Except.pure]

/-- Errors that may be absent, as a document. -/
def listed (errors : Option (List String)) : Json := (errors.map Json.ofStrings).getD .null

theorem restores_listed {room : Room} {errors : Option (List String)}
    (back : (listed errors).ReadsBack room) :
    (Decoder.optional (Decoder.list Decoder.string)).Restores listed room errors := by
  cases errors with
  | none => rfl
  | some texts =>
    obtain ⟨inner, entered, _⟩ := bind_ok back
    have again := Decoder.restores_strings entered texts
    exact congrArg (Except.map some) again

theorem decoder_ok {room : Room} {d : Draft} {reply : ValidationReply}
    (read : decoder room d = .ok reply) :
    decoder.Restores toJson room reply ∧
      ∃ pairs, Decoder.pairs room d = .ok pairs ∧
        Laid fields pairs
          [("Warnings", .string reply.warnings), ("ValidationErrors", listed reply.validationErrors),
            ("Error", .string reply.error)] reply.rest := by
  have fresh : view.Keeps {} [] := ⟨by simp [view], rfl⟩
  obtain ⟨inner, pairs, slots, entered, paired, keeps, closed, back, beside⟩ :=
    view.record_opened steps_read fresh read
  obtain rfl : ⟨slots.warnings.getD "", slots.validationErrors.getD none, slots.error.getD "",
    Members.ofPairs slots.rest⟩ = reply := Except.ok.inj closed
  constructor
  · have errors : (listed (slots.validationErrors.getD none)).ReadsBack inner := by
      cases given : slots.validationErrors with
      | none => rfl
      | some errors =>
        have stands : ("ValidationErrors", listed errors) ∈ pairs :=
          keeps.mem_of_held (by simp [view]) (by simp [view, given, listed])
        exact back _ stands
    have again : Decoder.optional (Decoder.list Decoder.string) inner
        (listed (slots.validationErrors.getD none)).toDraft =
        .ok (slots.validationErrors.getD none) := restores_listed errors
    have opened : Draft.foldMembers (Slots.read inner) {}
        (Json.draftMembers [("Warnings", .string (slots.warnings.getD "")),
          ("ValidationErrors", listed (slots.validationErrors.getD none)),
          ("Error", .string (slots.error.getD ""))]) =
        .ok { warnings := some (slots.warnings.getD ""),
              validationErrors := some (slots.validationErrors.getD none),
              error := some (slots.error.getD "") } := by
      simp [Json.draftMembers, Draft.foldMembers, Slots.read, Decoder.once, Decoder.string, again,
        Json.toDraft, Draft.sound, bind, Except.bind, pure, Except.pure, Except.map]
    refine appends_read.record entered opened beside ?_
    simp [view, Slots.keep, Slots.close, pure, Except.pure]
  · refine ⟨pairs, paired, keeps.laid rfl (by simp [view]) ?_⟩
    refine .cons ⟨rfl, ?_⟩ (.cons ⟨rfl, ?_⟩ (.cons ⟨rfl, ?_⟩ .nil))
    · cases given : slots.warnings <;> simp [view, given]
    · cases given : slots.validationErrors <;> simp [view, given, listed]
    · cases given : slots.error <;> simp [view, given]

end ValidationReply

namespace Identity

def fields : List (String × Option Json) :=
  [("AccessorID", some (.string "")), ("Name", some (.string "")), ("Type", some (.string "")),
    ("Policies", some (.array []))]

/-- What has been read, with more members beside the declared ones. -/
def Slots.keep (slots : Slots) (members : Members) : Slots :=
  { slots with other := slots.other ++ members }

theorem appends_read : view.Appends Slots.read Slots.keep where
  nil slots := by simp [Slots.keep]
  append slots a b := by simp [Slots.keep]
  step := by
    intro room slots key value other back
    obtain ⟨notAccessor, notName, notType, notPolicies⟩ :
        key ≠ "AccessorID" ∧ key ≠ "Name" ∧ key ≠ "Type" ∧ key ≠ "Policies" := by
      simpa [view, declared] using other
    have read : Decoder.json room value.toDraft = .ok value := back
    simp [Slots.read, notAccessor, notName, notType, notPolicies, read, Slots.keep, bind,
      Except.bind, pure, Except.pure]

/-- The policies are a list inside the identity, which is written where the text had none. -/
theorem decoder_ok {room : Room} {d : Draft} {identity : Identity}
    (read : decoder room d = .ok identity) :
    (room.Holds 2 → decoder.Restores toJson room identity) ∧
      ∃ pairs, Decoder.pairs room d = .ok pairs ∧
        Laid fields pairs
          [("AccessorID", .string identity.accessorId), ("Name", .string identity.name),
            ("Type", .string identity.kind), ("Policies", Json.ofStrings identity.policies)]
          identity.other := by
  have fresh : view.Keeps {} [] := ⟨by simp [view, declared], rfl⟩
  obtain ⟨inner, pairs, slots, entered, paired, keeps, closed, back, beside⟩ :=
    view.record_opened steps_read fresh read
  obtain rfl : _ = identity := Except.ok.inj closed
  constructor
  · intro holds
    obtain ⟨opened, here, within⟩ := holds.enter
    obtain rfl : inner = opened := Except.ok.inj (entered.symm.trans here)
    obtain ⟨innermost, deeper, _⟩ := within.enter
    have again : Decoder.list Decoder.string inner
        (Json.ofStrings (slots.policies.getD [])).toDraft = .ok (slots.policies.getD []) :=
      Decoder.restores_strings deeper _
    have opened : Draft.foldMembers (Slots.read inner) {}
        (Json.draftMembers [("AccessorID", .string (slots.accessorId.getD "")),
          ("Name", .string (slots.name.getD "")), ("Type", .string (slots.kind.getD "")),
          ("Policies", Json.ofStrings (slots.policies.getD []))]) =
        .ok { accessorId := some (slots.accessorId.getD ""), name := some (slots.name.getD ""),
              kind := some (slots.kind.getD ""), policies := some (slots.policies.getD []) } := by
      simp [Json.draftMembers, Draft.foldMembers, Slots.read, Decoder.once, Decoder.string, again,
        Json.toDraft, Draft.sound, bind, Except.bind, pure, Except.pure, Except.map]
    refine appends_read.record entered opened beside ?_
    simp [view, Slots.keep, Slots.close, pure, Except.pure]
  · refine ⟨pairs, paired, keeps.laid rfl (by simp [view, declared]) ?_⟩
    refine .cons ⟨rfl, ?_⟩ (.cons ⟨rfl, ?_⟩ (.cons ⟨rfl, ?_⟩ (.cons ⟨rfl, ?_⟩ .nil)))
    · cases given : slots.accessorId <;> simp [view, given]
    · cases given : slots.name <;> simp [view, given]
    · cases given : slots.kind <;> simp [view, given]
    · cases given : slots.policies <;> simp [view, given, Json.ofStrings]

end Identity

/-! ## Callers and payloads -/

/-- What every member that is read keeps true holds when all have been read. -/
theorem Draft.foldMembers_keeps {σ : Type} {P : σ → Prop} {step : σ → String → Draft → Decoded σ}
    (keeps : ∀ {s t : σ} {key : String} {d : Draft}, step s key d = .ok t → P s → P t) {s t : σ}
    {ms : List (Except SyntaxError String × Draft)} (run : foldMembers step s ms = .ok t)
    (before : P s) : P t := by
  induction ms generalizing s with
  | nil =>
    obtain rfl : s = t := Except.ok.inj run
    exact before
  | cons member rest ih =>
    obtain ⟨key, d⟩ := member
    obtain ⟨name, _, run⟩ := bind_ok run
    obtain ⟨middle, read, run⟩ := bind_ok run
    exact ih run (keeps read before)

/-- A record that was read from a list or from an object, from the inside. -/
theorem Decoder.recordOrList_ok {σ α : Type} {name : String} {count : Nat} {start : σ}
    {step : Room → σ → String → Draft → Decoded σ} {finish : σ → Decoded α}
    {fromList : Room → Decoder.Fields → Decoded (α × Decoder.Fields)} {room : Room} {d : Draft}
    {a : α} (read : Decoder.recordOrList name count start step finish fromList room d = .ok a) :
    ∃ inner, room.enter = .ok inner ∧
      ((∃ fields rest, fromList inner fields = .ok (a, rest)) ∨
        ∃ ms s, Draft.foldMembers (step inner) start ms = .ok s ∧ finish s = .ok a) := by
  cases d with
  | array items breach =>
    obtain ⟨inner, entered, read⟩ := bind_ok read
    obtain ⟨⟨found, rest⟩, fields, read⟩ := bind_ok read
    obtain ⟨_, _, read⟩ := bind_ok read
    obtain rfl : found = a := Except.ok.inj read
    exact ⟨inner, entered, .inl ⟨_, rest, fields⟩⟩
  | object ms breach =>
    obtain ⟨inner, entered, read⟩ := bind_ok read
    obtain ⟨s, folded, read⟩ := bind_ok read
    obtain ⟨_, _, closed⟩ := bind_ok read
    exact ⟨inner, entered, .inr ⟨ms, s, folded, closed⟩⟩
  | _ => exact absurd read (Draft.unwanted_ne_ok _ _ _)

/-- A field that is there was read. -/
theorem Decoder.Fields.next?_ok {α : Type} {fields rest : Decoder.Fields}
    {value : Draft → Decoded α} {a : α} (run : fields.next? value = .ok (some a, rest)) :
    ∃ d, value d = .ok a := by
  obtain ⟨items, breach⟩ := fields
  cases items with
  | nil =>
    obtain ⟨_, _, run⟩ := bind_ok run
    cases run
  | cons d more =>
    obtain ⟨found, read, run⟩ := bind_ok run
    obtain ⟨same, -⟩ := Prod.mk.inj (Except.ok.inj run)
    rw [Option.some.inj same] at read
    exact ⟨d, read⟩

theorem Decoder.Fields.next_ok {α : Type} {fields rest : Decoder.Fields} {index : Nat}
    {wanted : String} {value : Draft → Decoded α} {a : α}
    (run : fields.next index wanted value = .ok (a, rest)) : ∃ d, value d = .ok a := by
  obtain ⟨⟨found, left⟩, taken, run⟩ := bind_ok run
  cases found with
  | none => cases run
  | some b =>
    obtain ⟨rfl, -⟩ := Prod.mk.inj (Except.ok.inj run)
    exact next?_ok taken

namespace Caller

/-- The identity, if there is one, can be written and read again. -/
def Sound (room : Room) (identity : Option Identity) : Prop :=
  ∀ known, identity = some known → Identity.decoder.Restores Identity.toJson room known

theorem sound_optional {room : Room} (holds : room.Holds 2) {d : Draft} {identity : Option Identity}
    (read : Decoder.optional Identity.decoder room d = .ok identity) : Sound room identity := by
  rintro known rfl
  exact (Identity.decoder_ok (Decoder.optional_ok read)).1 holds

theorem sound_read {room : Room} (holds : room.Holds 2) {slots after : Slots} {key : String}
    {d : Draft} (run : Slots.read room slots key d = .ok after)
    (before : Sound room (slots.identity.getD none)) : Sound room (after.identity.getD none) := by
  by_cases address : key = "clientIP"
  · rw [Slots.read, if_pos address] at run
    obtain ⟨filled, _, run⟩ := bind_ok run
    obtain rfl : { slots with clientIp := filled } = after := Except.ok.inj run
    exact before
  · by_cases accessor : key = "accessorID"
    · rw [Slots.read, if_neg address, if_pos accessor] at run
      obtain ⟨filled, _, run⟩ := bind_ok run
      obtain rfl : { slots with accessorId := filled } = after := Except.ok.inj run
      exact before
    · by_cases token : key = "tokenInfo"
      · rw [Slots.read, if_neg address, if_neg accessor, if_pos token] at run
        obtain ⟨filled, once, run⟩ := bind_ok run
        obtain rfl : { slots with identity := filled } = after := Except.ok.inj run
        obtain ⟨identity, _, decoded, rfl⟩ := Decoder.once_ok once
        exact sound_optional holds decoded
      · rw [Slots.read, if_neg address, if_neg accessor, if_neg token] at run
        obtain ⟨_, _, run⟩ := bind_ok run
        obtain rfl : slots = after := Except.ok.inj run
        exact before

theorem sound_fields {room : Room} (holds : room.Holds 2) {fields rest : Decoder.Fields}
    {caller : Caller} (read : ofFields room fields = .ok (caller, rest)) :
    Sound room caller.identity := by
  obtain ⟨⟨address, fields⟩, _, read⟩ := bind_ok read
  obtain ⟨⟨accessor, fields⟩, _, read⟩ := bind_ok read
  obtain ⟨⟨identity, fields⟩, last, read⟩ := bind_ok read
  obtain ⟨rfl, -⟩ := Prod.mk.inj (Except.ok.inj read)
  cases identity with
  | none => exact nofun
  | some known =>
    obtain ⟨d, read⟩ := Decoder.Fields.next?_ok last
    exact sound_optional holds read

theorem sound_decoder {room : Room} (holds : room.Holds 3) {d : Draft} {caller : Caller}
    (read : decoder room d = .ok caller) :
    ∃ inner, room.enter = .ok inner ∧ Sound inner caller.identity := by
  obtain ⟨opened, here, within⟩ := holds.enter
  obtain ⟨inner, entered, cases⟩ := Decoder.recordOrList_ok read
  obtain rfl : opened = inner := Except.ok.inj (here.symm.trans entered)
  refine ⟨opened, here, ?_⟩
  rcases cases with ⟨fields, rest, listed⟩ | ⟨ms, slots, folded, closed⟩
  · exact sound_fields within listed
  · obtain rfl : _ = caller := Except.ok.inj closed
    have fresh : Sound opened none := nofun
    exact Draft.foldMembers_keeps (P := fun slots : Slots => Sound opened (slots.identity.getD none))
      (sound_read within) folded fresh

theorem restores_decoder {room : Room} (holds : room.Holds 3) {d : Draft} {caller : Caller}
    (read : decoder room d = .ok caller) : decoder.Restores toJson room caller := by
  obtain ⟨inner, entered, sound⟩ := sound_decoder holds read
  obtain ⟨address, accessor, identity⟩ := caller
  cases identity with
  | none =>
    simp [Decoder.Restores, decoder, toJson, Decoder.recordOrList, Decoder.record, Json.toDraft,
      Json.draftMembers, Draft.foldMembers, entered, Slots.read, Decoder.once, Decoder.string,
      Draft.sound, Draft.stopAt, Slots.close, bind, Except.bind, pure, Except.pure, Except.map]
  | some known =>
    have again : Decoder.optional Identity.decoder inner known.toJson.toDraft =
        .ok (some known) := by
      have restored : Identity.decoder inner known.toJson.toDraft = .ok known := sound known rfl
      rw [Identity.toJson, Decoder.optional_object, ← Identity.toJson, restored]
      rfl
    simp [Decoder.Restores, decoder, toJson, Decoder.recordOrList, Decoder.record, Json.toDraft,
      Json.draftMembers, Draft.foldMembers, entered, Slots.read, Decoder.once, Decoder.string,
      again, Draft.sound, Draft.stopAt, Slots.close, bind, Except.bind, pure, Except.pure,
      Except.map]

end Caller

namespace Payload

/-- The job and the caller, where known, can be written and read again. -/
structure Sound (room : Room) (job : Option Job) (caller : Option Caller) : Prop where
  job : ∀ known, job = some known → Job.decoder.Restores Job.toJson room known
  caller : ∀ known, caller = some known → Caller.decoder.Restores Caller.toJson room known

theorem restores_optional {room : Room} (holds : room.Holds 3) {d : Draft} {caller : Option Caller}
    (read : Decoder.optional Caller.decoder room d = .ok caller) :
    ∀ known, caller = some known → Caller.decoder.Restores Caller.toJson room known := by
  rintro known rfl
  exact Caller.restores_decoder holds (Decoder.optional_ok read)

theorem sound_read {room : Room} (holds : room.Holds 3) {slots after : Slots} {key : String}
    {d : Draft} (run : Slots.read room slots key d = .ok after)
    (before : Sound room slots.job (slots.caller.getD none)) :
    Sound room after.job (after.caller.getD none) := by
  by_cases job : key = "job"
  · rw [Slots.read, if_pos job] at run
    obtain ⟨filled, once, run⟩ := bind_ok run
    obtain rfl : { slots with job := filled } = after := Except.ok.inj run
    obtain ⟨known, _, decoded, rfl⟩ := Decoder.once_ok once
    refine ⟨?_, before.caller⟩
    rintro _ ⟨⟩
    exact Job.restores_decoder decoded
  · by_cases context : key = "context"
    · rw [Slots.read, if_neg job, if_pos context] at run
      obtain ⟨filled, once, run⟩ := bind_ok run
      obtain rfl : { slots with caller := filled } = after := Except.ok.inj run
      obtain ⟨caller, _, decoded, rfl⟩ := Decoder.once_ok once
      exact ⟨before.job, restores_optional holds decoded⟩
    · rw [Slots.read, if_neg job, if_neg context] at run
      obtain ⟨_, _, run⟩ := bind_ok run
      obtain rfl : slots = after := Except.ok.inj run
      exact before

theorem sound_fields {room : Room} (holds : room.Holds 3) {fields rest : Decoder.Fields}
    {payload : Payload} (read : ofFields room fields = .ok (payload, rest)) :
    Sound room (some payload.job) payload.caller := by
  obtain ⟨⟨job, fields⟩, first, read⟩ := bind_ok read
  obtain ⟨⟨caller, fields⟩, second, read⟩ := bind_ok read
  obtain ⟨rfl, -⟩ := Prod.mk.inj (Except.ok.inj read)
  refine ⟨?_, ?_⟩
  · obtain ⟨d, decoded⟩ := Decoder.Fields.next_ok first
    rintro _ ⟨⟩
    exact Job.restores_decoder decoded
  · cases caller with
    | none => exact nofun
    | some known =>
      obtain ⟨d, decoded⟩ := Decoder.Fields.next?_ok second
      exact restores_optional holds decoded

theorem sound_decoder {room : Room} (holds : room.Holds 4) {d : Draft} {payload : Payload}
    (read : decoder room d = .ok payload) :
    ∃ inner, room.enter = .ok inner ∧ Sound inner (some payload.job) payload.caller := by
  obtain ⟨opened, here, within⟩ := holds.enter
  obtain ⟨inner, entered, cases⟩ := Decoder.recordOrList_ok read
  obtain rfl : opened = inner := Except.ok.inj (here.symm.trans entered)
  refine ⟨opened, here, ?_⟩
  rcases cases with ⟨fields, rest, listed⟩ | ⟨ms, slots, folded, closed⟩
  · exact sound_fields within listed
  · have fresh : Sound opened none none := ⟨nofun, nofun⟩
    have sound := Draft.foldMembers_keeps
      (P := fun slots : Slots => Sound opened slots.job (slots.caller.getD none))
      (sound_read within) folded fresh
    obtain ⟨job, there, closed⟩ := bind_ok closed
    obtain rfl : ⟨job, slots.caller.getD none⟩ = payload := Except.ok.inj closed
    rwa [Decoder.required_ok there] at sound

theorem restores_decoder {room : Room} (holds : room.Holds 4) {d : Draft} {payload : Payload}
    (read : decoder room d = .ok payload) : decoder.Restores toJson room payload := by
  obtain ⟨inner, entered, sound⟩ := sound_decoder holds read
  obtain ⟨job, caller⟩ := payload
  have first : Job.decoder inner job.toJson.toDraft = .ok job := sound.job job rfl
  cases caller with
  | none =>
    simp [Decoder.Restores, decoder, toJson, Decoder.recordOrList, Decoder.record, Json.toDraft,
      Json.draftMembers, Draft.foldMembers, entered, Slots.read, Decoder.once, first,
      Decoder.required, Draft.sound, Draft.stopAt, Slots.close, bind, Except.bind, pure,
      Except.pure, Except.map]
  | some known =>
    have again : Decoder.optional Caller.decoder inner known.toJson.toDraft = .ok (some known) := by
      have restored : Caller.decoder inner known.toJson.toDraft = .ok known := sound.caller known rfl
      rw [Caller.toJson, Decoder.optional_object, ← Caller.toJson, restored]
      rfl
    simp [Decoder.Restores, decoder, toJson, Decoder.recordOrList, Decoder.record, Json.toDraft,
      Json.draftMembers, Draft.foldMembers, entered, Slots.read, Decoder.once, first, again,
      Decoder.required, Draft.sound, Draft.stopAt, Slots.close, bind, Except.bind, pure,
      Except.pure, Except.map]

end Payload

/-! ## Nothing is lost -/

/-- Whatever decodes, of a text or of a document, is the same when it is written and decoded again,
    and so is what is written then. -/
structure Decoder.Lossless {α : Type} (value : Decoder α) (document : α → Json) : Prop where
  text : ∀ body a, decodeBytes value body = .ok a →
    ∃ again, (Document.ofJson (document a)).decode value = .ok again ∧ again = a ∧
      (document again).text = (document a).text
  document : ∀ v a, Json.decode value v = .ok a →
    ∃ again, Json.decode value (document a) = .ok again ∧ again = a ∧
      (document again).text = (document a).text

/-- Whatever decodes is written as one object, with the declared members first. -/
def Decoder.Lays {α : Type} (value : Decoder α) (document : α → Json)
    (fields : List (String × Option Json)) : Prop :=
  ∀ room d a, value room d = .ok a → ∃ pairs front rest, Decoder.pairs room d = .ok pairs ∧
    document a = .object (front ++ rest) ∧ Laid fields pairs front rest

theorem Room.holds_text : Room.Holds 4 textRoom := by
  rintro n ⟨⟩
  decide

theorem Decoder.lossless_of_restores {α : Type} {value : Decoder α} {document : α → Json}
    (restores : ∀ {room : Room} {d : Draft} {a : α}, room.Holds 4 → value room d = .ok a →
      value.Restores document room a) : value.Lossless document where
  text body a decoded := by
    obtain ⟨read, _⟩ := decodeBytes_eq_ok.mp decoded
    refine ⟨a, ?_, rfl, rfl⟩
    have again : value textRoom (document a).toDraft = .ok a := restores Room.holds_text read
    simp [Document.decode, Document.ofJson, again, bind, Except.bind, pure, Except.pure]
  document v a decoded := ⟨a, restores nofun decoded, rfl, rfl⟩

/-- Submissions, replies, identities and payloads are written without loss; the first four with all
    members of what was read, in their order and with their last values. -/
theorem written_without_loss :
    (Submission.decoder.Lossless Submission.toJson ∧ JobReply.decoder.Lossless JobReply.toJson ∧
      ValidationReply.decoder.Lossless ValidationReply.toJson ∧
      Identity.decoder.Lossless Identity.toJson ∧ Payload.decoder.Lossless Payload.toJson) ∧
    Submission.decoder.Lays Submission.toJson Submission.fields ∧
    JobReply.decoder.Lays JobReply.toJson JobReply.fields ∧
    ValidationReply.decoder.Lays ValidationReply.toJson ValidationReply.fields ∧
    Identity.decoder.Lays Identity.toJson Identity.fields := by
  refine ⟨⟨?_, ?_, ?_, ?_, ?_⟩, ?_, ?_, ?_, ?_⟩
  · exact Decoder.lossless_of_restores fun _ read => (Submission.decoder_ok read).1
  · exact Decoder.lossless_of_restores fun _ read => (JobReply.decoder_ok read).1
  · exact Decoder.lossless_of_restores fun _ read => (ValidationReply.decoder_ok read).1
  · refine Decoder.lossless_of_restores fun {room} _ _ holds read => (Identity.decoder_ok read).1 ?_
    intro n same
    have := holds n same
    omega
  · exact Decoder.lossless_of_restores fun holds read => Payload.restores_decoder holds read
  · intro room d submission read
    obtain ⟨pairs, paired, laid⟩ := (Submission.decoder_ok read).2
    exact ⟨pairs, _, _, paired, rfl, laid⟩
  · intro room d reply read
    obtain ⟨pairs, paired, laid⟩ := (JobReply.decoder_ok read).2
    exact ⟨pairs, _, _, paired, rfl, laid⟩
  · intro room d reply read
    obtain ⟨pairs, paired, laid⟩ := (ValidationReply.decoder_ok read).2
    exact ⟨pairs, _, _, paired, rfl, laid⟩
  · intro room d identity read
    obtain ⟨pairs, paired, laid⟩ := (Identity.decoder_ok read).2
    exact ⟨pairs, _, _, paired, rfl, laid⟩

/-- A description of a token without accessor, type and policies, in which a member stands twice. -/
def shortText : Bytes := Utf8.encode "\x7b\"Z\":1,\"Name\":\"ci\",\"Local\":false,\"Z\":[2]\x7d"

def shortIdentity : Identity where
  name := "ci"
  other := [("Z", .array [Json.ofInt 2]), ("Local", .bool false)]

theorem short_identity_written :
    decodeBytes Identity.decoder shortText = .ok shortIdentity ∧
      (∃ again, (Document.ofJson shortIdentity.toJson).decode Identity.decoder = .ok again ∧
        again = shortIdentity ∧ again.toJson.text = shortIdentity.toJson.text) ∧
      ∃ pairs front rest, decodeBytes Decoder.pairs shortText = .ok pairs ∧
        shortIdentity.toJson = .object (front ++ rest) ∧ Laid Identity.fields pairs front rest := by
  have decoded : decodeBytes Identity.decoder shortText = .ok shortIdentity := by decide +kernel
  obtain ⟨⟨_, _, _, lossless, _⟩, _, _, _, lays⟩ := written_without_loss
  obtain ⟨read, alone⟩ := decodeBytes_eq_ok.mp decoded
  obtain ⟨pairs, front, rest, paired, written, laid⟩ := lays _ _ _ read
  have paired : decodeBytes Decoder.pairs shortText = .ok pairs :=
    decodeBytes_eq_ok.mpr ⟨paired, alone⟩
  exact ⟨decoded, lossless.text _ _ decoded, pairs, front, rest, paired, written, laid⟩

end JobGate
