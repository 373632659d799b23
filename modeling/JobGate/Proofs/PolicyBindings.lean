import JobGate.Policy.Engine
import JobGate.Proofs.PatchFrame

/-!
What a policy says, binding by binding. The lists of a proposal are taken out of the first set one
after another, and each time the last binding moves into the gap. Still each list is read off the
binding of its own name (`Proposal.readOff_ofBindings`), so other bindings and their order do not
matter, and neither do later sets (`PolicyEngine.bindings_read_apart`).
-/
namespace JobGate

namespace Members

theorem erase_of_get?_none {key : String} {members : Members} (absent : members.get? key = none) :
    members.erase key = members := by
  induction members with
  | nil => rfl
  | cons member rest ih =>
    obtain ⟨k, v⟩ := member
    by_cases here : k = key
    · simp [get?, here] at absent
    · simp [erase, here, ih (by simpa [get?, here] using absent)]

theorem keeps_erase (key : String) (members : Members) :
    Keeps [key] members (members.erase key) := by
  rcases there : members.get? key with _ | value
  · rw [erase_of_get?_none there]
    exact .refl [key] members
  · have taken : Taken value key (.object members) (.object (members.erase key)) := by
      refine Operation.takeFrom_ok_iff.mp ⟨?_, ?_⟩
      · simp [Operation.takeFrom, has, there]
      · simp [Pointer.resolve?, there]
    obtain ⟨left, same, keeps⟩ := taken.keeps
    obtain rfl := Json.object.inj same
    exact keeps

/-- The binding of a name as a list. -/
def listAt (name : String) (bindings : Members) : List Json :=
  ((bindings.get? name).bind Json.array?).getD []

theorem get?_of_perm_filter {names : List String} {a b : Members} (once : a.keys.Nodup)
    (same : (a.filter (·.1 ∈ names)).Perm (b.filter (·.1 ∈ names))) {name : String}
    (among : name ∈ names) : a.get? name = b.get? name := by
  have named : (keys (a.filter (·.1 ∈ names))).Nodup := (List.filter_sublist.map _).nodup once
  have found := get?_of_perm named same name
  rw [get?_filter (· ∈ names), get?_filter (· ∈ names)] at found
  simpa [among] using found

theorem listAt_erase {bindings : Members} (once : bindings.keys.Nodup) {key name : String}
    (other : name ≠ key) : (bindings.erase key).listAt name = bindings.listAt name := by
  have unnamed : name ∉ [key] := by simpa using other
  rw [listAt, (keeps_erase key bindings).get? once unnamed, listAt]

end Members

/-- What is read off a binding: an entry for each item of a list, in order; nothing if the name is
    not bound, or not to a list. -/
inductive Entries {α : Type} (entry : Json → α → Prop) : Option Json → List α → Prop where
  | unbound : Entries entry none []
  | shapeless {v : Json} (other : ∀ items, v ≠ .array items) : Entries entry (some v) []
  | list {items : List Json} {entries : List α} (each : List.Forall₂ entry items entries) :
      Entries entry (some (.array items)) entries

/-- The message that an item makes. -/
inductive Worded : Json → String → Prop where
  | string (s : String) : Worded (.string s) s
  | text {v : Json} (other : ∀ s, v ≠ .string s) : Worded v v.text

/-- The proposal is read off bindings, each of its lists off one of them. -/
structure Proposal.ReadOff (proposal : Proposal) (bindings : Members) : Prop where
  patch : Entries Eq (bindings.get? "patch") proposal.patch
  warnings : Entries Worded (bindings.get? "warnings") proposal.warnings
  errors : Entries Worded (bindings.get? "errors") proposal.errors

theorem worded_messageOf (v : Json) : Worded v (messageOf v) := by
  cases v with
  | string s => exact .string s
  | _ => exact .text nofun

theorem Members.entries_listAt {α : Type} {entry : Json → α → Prop} {f : Json → α}
    (made : ∀ v, entry v (f v)) (name : String) (bindings : Members) :
    Entries entry (bindings.get? name) ((bindings.listAt name).map f) := by
  rcases there : bindings.get? name with _ | v
  · simpa [listAt, there] using Entries.unbound
  · cases v with
    | array items =>
      have each : List.Forall₂ entry items (items.map f) :=
        List.forall₂_map_right_iff.mpr (List.forall₂_same.mpr fun v _ => made v)
      simpa [listAt, there, Json.array?] using Entries.list each
    | _ =>
      simp only [listAt, there, Option.bind_some, Json.array?, Option.getD_none, List.map_nil]
      exact .shapeless nofun

namespace Proposal

variable {bindings : Members}

/-- What is taken out before does not change what is found after. -/
theorem ofBindings_eq (once : bindings.keys.Nodup) :
    ofBindings bindings = ⟨bindings.listAt "patch", (bindings.listAt "warnings").map messageOf,
      (bindings.listAt "errors").map messageOf⟩ := by
  have onceLess := (Members.keeps_erase "patch" bindings).once once
  have warnings : (bindings.erase "patch").listAt "warnings" = bindings.listAt "warnings" :=
    Members.listAt_erase once (by decide)
  have errors : ((bindings.erase "patch").erase "warnings").listAt "errors" =
      bindings.listAt "errors" := by
    rw [Members.listAt_erase onceLess (by decide), Members.listAt_erase once (by decide)]
  rw [← warnings, ← errors]
  rfl

theorem readOff_ofBindings (once : bindings.keys.Nodup) :
    (ofBindings bindings).ReadOff bindings := by
  rw [ofBindings_eq once]
  refine ⟨?_, ?_, ?_⟩
  · simpa using Members.entries_listAt (f := id) (fun _ => rfl) "patch" bindings
  · exact Members.entries_listAt worded_messageOf "warnings" bindings
  · exact Members.entries_listAt worded_messageOf "errors" bindings

/-- The names that a policy may bind its lists to. -/
def names : List String := ["patch", "warnings", "errors"]

end Proposal

namespace PolicyEngine

variable {σ : Type}

/-- The engine yields sets of bindings for a payload; no set binds a name twice. -/
structure Yields (engine : PolicyEngine σ) (payload : Payload) (s : σ) (sets : List Members) :
    Prop where
  evaluated : (engine.eval payload.toJson s).1 = .ok sets
  once : ∀ set ∈ sets, set.keys.Nodup

section
variable {engine : PolicyEngine σ} {payload : Payload} {s : σ} {first : Members}
  {later sets : List Members}

theorem Yields.ask (yields : engine.Yields payload s sets) :
    (engine.ask payload s).1 = Proposal.ofSets sets := by
  rcases evaluated : engine.eval payload.toJson s with ⟨result, t⟩
  obtain rfl : result = .ok sets := by simpa [evaluated] using yields.evaluated
  simp [PolicyEngine.ask, evaluated]

theorem Yields.ask_cons (yields : engine.Yields payload s (first :: later)) :
    (engine.ask payload s).1 = .ok (Proposal.ofBindings first) ∧ first.keys.Nodup :=
  ⟨yields.ask, yields.once first (.head later)⟩

theorem Yields.noResult_iff (yields : engine.Yields payload s sets) :
    (engine.ask payload s).1 = .error .noResult ↔ sets = [] := by
  rw [yields.ask]
  cases sets with
  | nil => simp [Proposal.ofSets]
  | cons first later => simp [Proposal.ofSets]

/-- A policy says nothing exactly if no set comes back. Otherwise its proposal is read off the first
    set, each list off the binding of its own name: where another evaluation binds the name alike,
    its list is the same, and where all three names are bound alike, so is the proposal, whatever
    else is bound, in whatever order, and whatever sets come later. -/
theorem bindings_read_apart (yields : engine.Yields payload s sets) :
    ((engine.ask payload s).1 = .error .noResult ↔ sets = []) ∧
    ∀ first later, sets = first :: later →
      ∃ proposal, (engine.ask payload s).1 = .ok proposal ∧ proposal.ReadOff first ∧
        ∀ {τ : Type} {other : PolicyEngine τ} {asked : Payload} {t : τ} {changed : Members}
          {more : List Members}, other.Yields asked t (changed :: more) →
          ∃ again, (other.ask asked t).1 = .ok again ∧
            (changed.get? "patch" = first.get? "patch" → again.patch = proposal.patch) ∧
            (changed.get? "warnings" = first.get? "warnings" →
              again.warnings = proposal.warnings) ∧
            (changed.get? "errors" = first.get? "errors" → again.errors = proposal.errors) ∧
            ((changed.filter (·.1 ∈ Proposal.names)).Perm (first.filter (·.1 ∈ Proposal.names)) →
              again = proposal) := by
  refine ⟨yields.noResult_iff, ?_⟩
  rintro first later rfl
  obtain ⟨answered, once⟩ := yields.ask_cons
  refine ⟨Proposal.ofBindings first, answered, Proposal.readOff_ofBindings once, ?_⟩
  intro τ other asked t changed more yields'
  obtain ⟨again, once'⟩ := yields'.ask_cons
  have alike {name : String} (same : changed.get? name = first.get? name) :
      changed.listAt name = first.listAt name := by
    rw [Members.listAt, same, Members.listAt]
  refine ⟨Proposal.ofBindings changed, again, ?_⟩
  rw [Proposal.ofBindings_eq once, Proposal.ofBindings_eq once']
  refine ⟨fun same => ?_, fun same => ?_, fun same => ?_, fun same => ?_⟩
  · exact alike same
  · exact congrArg (List.map messageOf) (alike same)
  · exact congrArg (List.map messageOf) (alike same)
  · have each (name : String) (among : name ∈ Proposal.names) :
        changed.listAt name = first.listAt name :=
      alike (Members.get?_of_perm_filter once' same among)
    rw [each "patch" (by decide), each "warnings" (by decide), each "errors" (by decide)]

end

/-- The engine that yields the same sets for every document. -/
def fixed (sets : List Members) : PolicyEngine Unit := ⟨fun _ s => (.ok sets, s)⟩

/-- Bindings of three names, one of them to no list, and of a fourth that means nothing. -/
def crowdedSet : Members :=
  [("echo", .null), ("errors", .array [.string "nope", Json.ofInt 7]),
    ("patch", .object [("op", .string "add")]), ("warnings", .array [.string "careful"])]

/-- The bindings that matter, in another order. -/
def bareSet : Members :=
  [("warnings", .array [.string "careful"]), ("patch", .object [("op", .string "add")]),
    ("errors", .array [.string "nope", Json.ofInt 7])]

theorem crowded_set_read_as_bare :
    (fixed [crowdedSet]).Yields ⟨Job.empty, none⟩ () [crowdedSet] ∧
      (fixed [bareSet, crowdedSet]).Yields ⟨Job.empty, none⟩ () [bareSet, crowdedSet] ∧
      (bareSet.filter (·.1 ∈ Proposal.names)).Perm (crowdedSet.filter (·.1 ∈ Proposal.names)) ∧
      ∃ proposal, ((fixed [crowdedSet]).ask ⟨Job.empty, none⟩ ()).1 = .ok proposal ∧
        ((fixed [bareSet, crowdedSet]).ask ⟨Job.empty, none⟩ ()).1 = .ok proposal ∧
        proposal.ReadOff crowdedSet := by
  have crowded : (fixed [crowdedSet]).Yields ⟨Job.empty, none⟩ () [crowdedSet] :=
    ⟨rfl, by decide⟩
  have bare : (fixed [bareSet, crowdedSet]).Yields ⟨Job.empty, none⟩ () [bareSet, crowdedSet] :=
    ⟨rfl, by decide⟩
  have same : (bareSet.filter (·.1 ∈ Proposal.names)).Perm
      (crowdedSet.filter (·.1 ∈ Proposal.names)) := by decide
  obtain ⟨proposal, answered, readOff, others⟩ :=
    (bindings_read_apart crowded).2 crowdedSet [] rfl
  obtain ⟨again, reanswered, _, _, _, whole⟩ := others bare
  refine ⟨crowded, bare, same, proposal, answered, ?_, readOff⟩
  rw [reanswered, whole same]

end PolicyEngine
end JobGate
