import JobGate.Proofs.PatchRuns
import JobGate.Proofs.PointerTexts
import JobGate.Proofs.Records

/-!
What patches leave alone. An operation below the root changes an object at the members that it
names only (`Operation.Step.keeps`), and so does a run of them (`Operation.Run.keeps`). The members
that an operation names are the first tokens of the texts that it is written with
(`Operation.written_of_ofJson`), so all members that no such text names stay with their values, and
there are no others (`patch_keeps_unnamed`).
-/
namespace JobGate

namespace Members

/-- The members other than those named are the same up to their order, and keys that stood once
    stand once. -/
structure Keeps (named : List String) (before after : Members) : Prop where
  others : (after.without named).Perm (before.without named)
  once : before.keys.Nodup → after.keys.Nodup

theorem without_without {named other : List String} (among : named ⊆ other) (members : Members) :
    (members.without named).without other = members.without other := by
  simp only [without, List.filter_filter]
  refine List.filter_congr fun member _ => ?_
  by_cases here : member.1 ∈ other
  · simp [here]
  · have unnamed : member.1 ∉ named := mt (@among _) here
    simp [here, unnamed]

theorem without_set {named : List String} {key : String} (among : key ∈ named) (value : Json)
    (members : Members) : (members.set key value).without named = members.without named := by
  have left := filter_set (!named.contains ·) key value members
  simpa [without, among] using left

namespace Keeps

variable {named other : List String} {before middle after : Members}

theorem refl (named : List String) (members : Members) : Keeps named members members :=
  ⟨.refl _, id⟩

theorem trans (first : Keeps named before middle) (second : Keeps named middle after) :
    Keeps named before after :=
  ⟨second.others.trans first.others, second.once ∘ first.once⟩

theorem mono (keeps : Keeps named before after) (among : named ⊆ other) :
    Keeps other before after := by
  refine ⟨?_, keeps.once⟩
  rw [← without_without among, ← without_without among before]
  exact keeps.others.filter _

theorem mem_iff (keeps : Keeps named before after) {name : String} {value : Json}
    (unnamed : name ∉ named) : (name, value) ∈ after ↔ (name, value) ∈ before := by
  have among := keeps.others.mem_iff (a := (name, value))
  simpa [without, unnamed] using among

theorem get? (keeps : Keeps named before after) (once : before.keys.Nodup) {name : String}
    (unnamed : name ∉ named) : after.get? name = before.get? name := by
  refine Option.ext fun value => ?_
  rw [← mem_iff_get? (keeps.once once), ← mem_iff_get? once, keeps.mem_iff unnamed]

theorem set (key : String) (value : Json) (members : Members) :
    Keeps [key] members (members.set key value) := by
  refine ⟨?_, ?_⟩
  · rw [without_set (by simp)]
  · intro once
    rw [keys_set]
    by_cases there : key ∈ members.keys
    · rwa [if_pos there]
    · rw [if_neg there]
      exact once.append (List.nodup_singleton key) (by simpa using there)

/-- One member less, and the rest in another order. -/
theorem of_perm {key : String} {value : Json} (less : before.Perm ((key, value) :: after)) :
    Keeps [key] before after := by
  refine ⟨?_, ?_⟩
  · have left := (less.filter fun member => !([key] : List String).contains member.1).symm
    simpa [without] using left
  · intro once
    have keys : (key :: after.keys).Nodup := (less.map Prod.fst).nodup_iff.mp once
    exact (List.nodup_cons.mp keys).2

end Keeps

end Members

open Members (Keeps)

variable {path : Pointer} {value : Json} {members : Members} {after : Json}

theorem Within.keeps {change : Json → Json → Prop} {token : String}
    (within : Within change (token :: path) (.object members) after) :
    ∃ changed : Members, after = .object changed ∧ Keeps [token] members changed := by
  cases within with
  | member there inside => exact ⟨_, rfl, .set token _ members⟩

theorem Puts.keeps (put : Puts value path (.object members) after) (below : path ≠ []) :
    ∃ changed : Members, after = .object changed ∧ Keeps path.head?.toList members changed := by
  cases put with
  | root => exact absurd rfl below
  | @under parent token _ _ inside =>
    cases parent with
    | nil =>
      cases inside with
      | here inserted =>
        cases inserted with
        | member => exact ⟨_, rfl, .set token value members⟩
    | cons first rest => exact inside.keeps

theorem Taken.keeps {token : String} (taken : Taken value token (.object members) after) :
    ∃ left : Members, after = .object left ∧ Keeps [token] members left := by
  cases taken with
  | @last front _ =>
    exact ⟨front, rfl, .of_perm (List.perm_append_singleton (token, value) front)⟩
  | @swapped front middle last _ =>
    have less : (front ++ (token, value) :: (middle ++ [last])).Perm
        ((token, value) :: (front ++ last :: middle)) := by
      refine List.perm_middle.trans (.cons _ ?_)
      exact List.Perm.append_left front (List.perm_append_singleton last middle)
    exact ⟨front ++ last :: middle, rfl, .of_perm less⟩

theorem Takes.keeps (takes : Takes value path (.object members) after) :
    ∃ left : Members, after = .object left ∧ Keeps path.head?.toList members left := by
  cases takes with
  | @under parent token _ _ inside =>
    cases parent with
    | nil =>
      cases inside with
      | here taken => exact taken.keeps
    | cons first rest => exact inside.keeps

namespace Operation

/-- The members of the document that an operation names: in its path and, if it moves a value, in
    the place where that was. -/
def named : Operation → List String
  | .move source path => source.head?.toList ++ path.head?.toList
  | op => op.path.head?.toList

theorem Step.keeps {op : Operation} (step : op.Step (.object members) after)
    (below : op.path ≠ []) :
    ∃ changed : Members, after = .object changed ∧ Keeps op.named members changed := by
  cases step with
  | add put => exact put.keeps below
  | remove taken => exact taken.keeps
  | @replace path value _ _ replaced =>
    cases path with
    | nil => exact absurd rfl below
    | cons token rest => exact replaced.keeps
  | move _ taken put =>
    obtain ⟨left, rfl, first⟩ := taken.keeps
    obtain ⟨changed, rfl, second⟩ := put.keeps below
    refine ⟨changed, rfl, (first.mono ?_).trans (second.mono ?_)⟩
    · exact List.subset_append_left _ _
    · exact List.subset_append_right _ _
  | copy _ put => exact put.keeps below
  | test => exact ⟨members, rfl, .refl _ members⟩

theorem Run.keeps {operations : List Operation} (run : Run operations (.object members) after)
    (below : ∀ op ∈ operations, op.path ≠ []) :
    ∃ changed : Members, after = .object changed ∧
      Keeps (operations.flatMap named) members changed := by
  induction operations generalizing members with
  | nil =>
    cases run
    exact ⟨members, rfl, .refl _ members⟩
  | cons op rest ih =>
    cases run with
    | cons step run =>
      obtain ⟨between, rfl, first⟩ := step.keeps (below op (.head _))
      obtain ⟨changed, rfl, later⟩ := ih run fun other among => below other (.tail _ among)
      refine ⟨changed, rfl, (first.mono ?_).trans (later.mono ?_)⟩
      · exact List.subset_append_left _ _
      · exact List.subset_append_right _ _

end Operation

/-! ## Operations as they are written -/

namespace Operation

/-- The kind of an operation and its fields, written as an object or as a list. -/
inductive Written : Json → Kind → List (String × Json) → Prop where
  | object {members : Members} {tag : Json} {kind : Kind}
      (there : members.get? "op" = some tag) (known : Kind.ofJson tag = .ok kind) :
      Written (.object members) kind (members.filter (·.1 != "op"))
  | list {tag : Json} {items : List Json} {kind : Kind} (known : Kind.ofJson tag = .ok kind) :
      Written (.array (tag :: items)) kind (kind.fields.zip items)

/-- The text of a pointer stands under a key, with or without the sign in front. -/
def Points (fields : List (String × Json)) (key : String) (pointer : Pointer) : Prop :=
  ∃ text, (key, .string text) ∈ fields ∧ (text = pointer.text ∨ text = "#" ++ pointer.text)

/-- The path of an operation is the root. -/
def AtRoot (op : Json) : Prop := ∃ kind fields, Written op kind fields ∧ Points fields "path" []

/-- A key is the first token of the path of an operation, or of the place that it moves from. -/
def Names (op : Json) (name : String) : Prop :=
  ∃ kind fields rest, Written op kind fields ∧
    (Points fields "path" (name :: rest) ∨ kind = .move ∧ Points fields "from" (name :: rest))

/-- The pointers that were read are written in the fields. -/
structure Slots.From (fields : List (String × Json)) (slots : Slots) : Prop where
  path : ∀ pointer, slots.path = some pointer → Points fields "path" pointer
  source : ∀ pointer, slots.source = some pointer → Points fields "from" pointer

theorem points_of_pointer {fields : List (String × Json)} {field : String × Json}
    (among : field ∈ fields) {pointer : Pointer} (read : pointerOfJson field.2 = .ok pointer) :
    Points fields field.1 pointer := by
  obtain ⟨key, value⟩ := field
  cases value with
  | string text => exact ⟨text, among, Pointer.parse_ok_iff.mp read⟩
  | _ => cases read

theorem Slots.read_from {fields : List (String × Json)} {kind : Kind} {slots after : Slots}
    {field : String × Json} (among : field ∈ fields) (read : slots.read kind field = .ok after)
    (before : slots.From fields) : after.From fields := by
  by_cases path : field.1 = "path"
  · rw [Slots.read, if_pos path] at read
    obtain ⟨pointer, parsed, read⟩ := bind_ok read
    obtain rfl := Except.ok.inj read
    refine ⟨?_, before.source⟩
    rintro _ ⟨⟩
    rw [← path]
    exact points_of_pointer among parsed
  · rw [Slots.read, if_neg path] at read
    by_cases source : field.1 = "from" && kind.hasSource
    · rw [if_pos source] at read
      obtain ⟨pointer, parsed, read⟩ := bind_ok read
      obtain rfl := Except.ok.inj read
      refine ⟨before.path, ?_⟩
      rintro _ ⟨⟩
      have name : field.1 = "from" := (by simpa using source : _ ∧ _).1
      rw [← name]
      exact points_of_pointer among parsed
    · rw [if_neg source] at read
      by_cases value : field.1 = "value" && kind.hasValue
      · rw [if_pos value] at read
        obtain rfl := Except.ok.inj read
        exact ⟨before.path, before.source⟩
      · rw [if_neg value] at read
        obtain rfl := Except.ok.inj read
        exact before

theorem Slots.foldlM_from {all fields : List (String × Json)} {kind : Kind} {slots after : Slots}
    (among : fields ⊆ all) (run : fields.foldlM (Slots.read kind) slots = .ok after)
    (before : slots.From all) : after.From all := by
  induction fields generalizing slots with
  | nil =>
    obtain rfl : slots = after := Except.ok.inj run
    exact before
  | cons field rest ih =>
    rw [List.foldlM_cons] at run
    obtain ⟨middle, read, run⟩ := bind_ok run
    have next := Slots.read_from (among (.head _)) read before
    exact ih (fun _ later => among (.tail _ later)) run next

theorem Slots.close_ok {kind : Kind} {slots : Slots} {op : Operation}
    (closed : slots.close kind = .ok op) :
    slots.path = some op.path ∧
      ∀ source path, op = .move source path → kind = .move ∧ slots.source = some source := by
  cases kind with
  | add | replace | test =>
    obtain ⟨path, there, closed⟩ := bind_ok closed
    obtain ⟨value, _, closed⟩ := bind_ok closed
    obtain rfl := Except.ok.inj closed
    exact ⟨Decoder.required_ok there, nofun⟩
  | remove =>
    obtain ⟨path, there, closed⟩ := bind_ok closed
    obtain rfl := Except.ok.inj closed
    exact ⟨Decoder.required_ok there, nofun⟩
  | copy =>
    obtain ⟨source, _, closed⟩ := bind_ok closed
    obtain ⟨path, there, closed⟩ := bind_ok closed
    obtain rfl := Except.ok.inj closed
    exact ⟨Decoder.required_ok there, nofun⟩
  | move =>
    obtain ⟨source, from_, closed⟩ := bind_ok closed
    obtain ⟨path, there, closed⟩ := bind_ok closed
    obtain rfl := Except.ok.inj closed
    refine ⟨Decoder.required_ok there, ?_⟩
    rintro _ _ ⟨⟩
    exact ⟨rfl, Decoder.required_ok from_⟩

/-- The places of an operation that was decoded are those that it is written with. -/
theorem written_of_ofJson {json : Json} {op : Operation} (read : ofJson json = .ok op) :
    ∃ kind fields, Written json kind fields ∧ Points fields "path" op.path ∧
      ∀ source path, op = .move source path → kind = .move ∧ Points fields "from" source := by
  have assembled {kind : Kind} {fields : List (String × Json)} {slots : Slots}
      (written : Written json kind fields)
      (run : fields.foldlM (Slots.read kind) {} = .ok slots) (closed : slots.close kind = .ok op) :
      ∃ kind fields, Written json kind fields ∧ Points fields "path" op.path ∧
        ∀ source path, op = .move source path → kind = .move ∧ Points fields "from" source := by
    have fresh : Slots.From fields {} := ⟨nofun, nofun⟩
    have found := Slots.foldlM_from (fun _ among => among) run fresh
    obtain ⟨path, moved⟩ := Slots.close_ok closed
    refine ⟨kind, fields, written, found.path _ path, fun source path same => ?_⟩
    obtain ⟨kind, source⟩ := moved source path same
    exact ⟨kind, found.source _ source⟩
  cases json with
  | object members =>
    obtain ⟨tag, there, read⟩ := bind_ok read
    obtain ⟨kind, known, read⟩ := bind_ok read
    obtain ⟨slots, run, closed⟩ := bind_ok read
    exact assembled (.object (Decoder.required_ok there) known) run closed
  | array items =>
    cases items with
    | nil => cases read
    | cons tag items =>
      obtain ⟨kind, known, read⟩ := bind_ok read
      obtain ⟨slots, run, read⟩ := bind_ok read
      obtain ⟨_, read⟩ := unless_ok read
      obtain ⟨_, closed⟩ := unless_ok read
      exact assembled (.list known) run closed
  | _ => cases read

theorem below_of_ofJson {json : Json} {op : Operation} (read : ofJson json = .ok op)
    (below : ¬ AtRoot json) : op.path ≠ [] := by
  intro root
  obtain ⟨kind, fields, written, path, _⟩ := written_of_ofJson read
  rw [root] at path
  exact below ⟨kind, fields, written, path⟩

theorem names_of_ofJson {json : Json} {op : Operation} (read : ofJson json = .ok op)
    {name : String} (among : name ∈ op.named) : Names json name := by
  obtain ⟨kind, fields, written, path, moved⟩ := written_of_ofJson read
  have first {pointer : Pointer} (head : name ∈ pointer.head?.toList) :
      ∃ rest, pointer = name :: rest := by
    cases pointer with
    | nil => cases head
    | cons token rest =>
      obtain rfl : name = token := by simpa using head
      exact ⟨rest, rfl⟩
  have onPath (head : name ∈ op.path.head?.toList) : Names json name := by
    obtain ⟨rest, same⟩ := first head
    rw [same] at path
    exact ⟨kind, fields, rest, written, .inl path⟩
  cases op with
  | move source target =>
    rcases List.mem_append.mp among with head | head
    · obtain ⟨rest, same⟩ := first head
      obtain ⟨move, start⟩ := moved source target rfl
      rw [same] at start
      exact ⟨kind, fields, rest, written, .inr ⟨move, start⟩⟩
    · exact onPath head
  | _ => exact onPath among

end Operation

namespace Job

open Operation (AtRoot Names)

variable {ops : List Json} {job patched : Job} {mutated : Bool}

theorem patch_keeps (below : ∀ op ∈ ops, ¬ AtRoot op)
    (run : job.patch ops = .ok (patched, mutated)) :
    ∃ named : List String, (∀ name ∈ named, ∃ op ∈ ops, Names op name) ∧
      Keeps named job.members patched.members := by
  obtain ⟨operations, read, steps⟩ := run_of_patch run
  have decoded {op : Operation} (among : op ∈ operations) :
      ∃ json ∈ ops, Operation.ofJson json = .ok op :=
    mapM_ok (Operation.decodeOperations_ok_iff.mp read) op among
  have inside : ∀ op ∈ operations, op.path ≠ [] := by
    intro op among
    obtain ⟨json, there, read⟩ := decoded among
    exact Operation.below_of_ofJson read (below json there)
  obtain ⟨changed, same, keeps⟩ := steps.keeps inside
  obtain rfl : patched.members = changed := Json.object.inj same
  refine ⟨operations.flatMap Operation.named, ?_, keeps⟩
  intro name named
  obtain ⟨op, among, head⟩ := List.mem_flatMap.mp named
  obtain ⟨json, there, read⟩ := decoded among
  exact ⟨json, there, Operation.names_of_ofJson read head⟩

/-- A patch whose operations all have paths below the root leaves the members that none of them
    names as they were, and brings in no others. -/
theorem patch_keeps_unnamed (below : ∀ op ∈ ops, ¬ AtRoot op)
    (run : job.patch ops = .ok (patched, mutated)) :
    (∀ name value, (∀ op ∈ ops, ¬ Names op name) →
      ((name, value) ∈ patched.members ↔ (name, value) ∈ job.members)) ∧
    (job.members.keys.Nodup → patched.members.keys.Nodup ∧
      ∀ name, (∀ op ∈ ops, ¬ Names op name) →
        patched.members.get? name = job.members.get? name) := by
  obtain ⟨named, names, keeps⟩ := patch_keeps below run
  have unnamed {name : String} (away : ∀ op ∈ ops, ¬ Names op name) : name ∉ named := by
    intro among
    obtain ⟨op, there, called⟩ := names name among
    exact away op there called
  refine ⟨?_, ?_⟩
  · intro name value away
    exact keeps.mem_iff (unnamed away)
  · intro once
    exact ⟨keeps.once once, fun name away => keeps.get? once (unnamed away)⟩

/-- Moves a member, whose key has a slash in it, into another. -/
def slashMove : Json :=
  .object [("op", .string "move"), ("from", .string "/a~1b"), ("path", .string "/Meta/ab")]

def slashed : Job := ⟨[("a/b", Json.ofInt 1), ("ID", .string "web"), ("Meta", .object [])]⟩

theorem identifier_kept :
    ¬ AtRoot slashMove ∧ ¬ Names slashMove "ID" ∧
      ∃ patched : Job, slashed.patch [slashMove] = .ok (patched, true) ∧
        ("ID", .string "web") ∈ patched.members ∧
        patched.members.get? "ID" = slashed.members.get? "ID" := by
  have written {kind : Operation.Kind} {fields : List (String × Json)} {key text : String}
      (written : Operation.Written slashMove kind fields) (there : (key, .string text) ∈ fields) :
      key = "from" ∧ text = "/a~1b" ∨ key = "path" ∧ text = "/Meta/ab" := by
    cases written with
    | object => simpa using there
  have root : ¬ AtRoot slashMove := by
    rintro ⟨kind, fields, given, text, there, spelt⟩
    have read := Pointer.parse_ok_iff.mpr spelt
    obtain ⟨same, -⟩ | ⟨-, rfl⟩ := written given there
    · exact absurd same (by decide)
    · have parsed : Pointer.parse "/Meta/ab" = .ok ["Meta", "ab"] := by decide +kernel
      exact absurd (Except.ok.inj (parsed.symm.trans read)) (by simp)
  have unnamed : ¬ Names slashMove "ID" := by
    rintro ⟨kind, fields, rest, given, ⟨text, there, spelt⟩ | ⟨_, text, there, spelt⟩⟩
    · have read := Pointer.parse_ok_iff.mpr spelt
      obtain ⟨same, -⟩ | ⟨-, rfl⟩ := written given there
      · exact absurd same (by decide)
      · have parsed : Pointer.parse "/Meta/ab" = .ok ["Meta", "ab"] := by decide +kernel
        exact absurd (Except.ok.inj (parsed.symm.trans read)) (by simp)
    · have read := Pointer.parse_ok_iff.mpr spelt
      obtain ⟨-, rfl⟩ | ⟨same, -⟩ := written given there
      · have parsed : Pointer.parse "/a~1b" = .ok ["a/b"] := by decide +kernel
        exact absurd (Except.ok.inj (parsed.symm.trans read)) (by simp)
      · exact absurd same (by decide)
  have run : slashed.patch [slashMove] =
      .ok (⟨[("Meta", .object [("ab", Json.ofInt 1)]), ("ID", .string "web")]⟩, true) := by
    decide +kernel
  have below : ∀ op ∈ [slashMove], ¬ AtRoot op := by simpa using root
  have away : ∀ op ∈ [slashMove], ¬ Names op "ID" := by simpa using unnamed
  obtain ⟨keeps, found⟩ := patch_keeps_unnamed below run
  refine ⟨root, unnamed, _, run, ?_, ?_⟩
  · exact (keeps "ID" (.string "web") away).mpr (by simp [slashed])
  · exact (found (by decide)).2 "ID" away

end Job
end JobGate
