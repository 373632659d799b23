import JobGate.Job.Patch
import JobGate.Proofs.Members
import JobGate.Proofs.Results

/-!
What operations do to documents, place by place: `Operation.Step` says for each kind which document
becomes which, and an operation applies exactly if there is such a step (`apply_ok_iff`). Steps in
a row make up a run (`Operation.Run`); a list of operations applies exactly if it has a run
(`applyOperations_ok_iff`), and otherwise fails at the first operation without a step
(`applyOperations_error_iff`).
-/
namespace JobGate

/-- The documents differ in the value at one place, which changes as given. -/
inductive Within (change : Json → Json → Prop) : Pointer → Json → Json → Prop where
  | here {v w : Json} (changed : change v w) : Within change [] v w
  | member {token : String} {rest : Pointer} {members : Members} {v w : Json}
      (there : members.get? token = some v) (inside : Within change rest v w) :
      Within change (token :: rest) (.object members) (.object (members.set token w))
  | item {token : String} {rest : Pointer} {items : List Json} {i : Nat} {v w : Json}
      (index : Pointer.index? token = some i) (there : items[i]? = some v)
      (inside : Within change rest v w) :
      Within change (token :: rest) (.array items) (.array (items.set i w))

/-- A value is put under a token: a key, the index of an item, which moves on with all after it, or
    the place behind the last item. -/
inductive Inserted (value : Json) : String → Json → Json → Prop where
  | member (token : String) (members : Members) :
      Inserted value token (.object members) (.object (members.set token value))
  | last (items : List Json) : Inserted value "-" (.array items) (.array (items ++ [value]))
  | item {token : String} {front behind : List Json}
      (index : Pointer.index? token = some front.length) :
      Inserted value token (.array (front ++ behind)) (.array (front ++ value :: behind))

/-- A value is taken from under a token: items behind it close up, while the last member takes the
    place of one before it. -/
inductive Taken (value : Json) : String → Json → Json → Prop where
  | last {token : String} {front : Members} (first : token ∉ front.keys) :
      Taken value token (.object (front ++ [(token, value)])) (.object front)
  | swapped {token : String} {front middle : Members} {last : String × Json}
      (first : token ∉ front.keys) :
      Taken value token (.object (front ++ (token, value) :: (middle ++ [last])))
        (.object (front ++ last :: middle))
  | item {token : String} {front behind : List Json}
      (index : Pointer.index? token = some front.length) :
      Taken value token (.array (front ++ value :: behind)) (.array (front ++ behind))

/-- A value is put at a place; at the root it takes the place of the document. -/
inductive Puts (value : Json) : Pointer → Json → Json → Prop where
  | root (doc : Json) : Puts value [] doc value
  | under {parent : Pointer} {token : String} {doc after : Json}
      (inside : Within (Inserted value token) parent doc after) :
      Puts value (parent ++ [token]) doc after

/-- A value is taken from a place other than the root. -/
inductive Takes (value : Json) : Pointer → Json → Json → Prop where
  | under {parent : Pointer} {token : String} {doc after : Json}
      (inside : Within (Taken value token) parent doc after) :
      Takes value (parent ++ [token]) doc after

namespace Operation

/-- What an operation makes of a document. -/
inductive Step : Operation → Json → Json → Prop where
  | add {path : Pointer} {value doc after : Json} (put : Puts value path doc after) :
      Step (.add path value) doc after
  | remove {path : Pointer} {value doc after : Json} (taken : Takes value path doc after) :
      Step (.remove path) doc after
  | replace {path : Pointer} {value doc after : Json}
      (replaced : Within (fun _ new => new = value) path doc after) :
      Step (.replace path value) doc after
  | move {source path : Pointer} {value doc rest after : Json}
      (outside : source.isInside path = false) (taken : Takes value source doc rest)
      (put : Puts value path rest after) : Step (.move source path) doc after
  | copy {source path : Pointer} {value doc after : Json}
      (found : source.resolve? doc = some value) (put : Puts value path doc after) :
      Step (.copy source path) doc after
  | test {path : Pointer} {value target doc : Json} (found : path.resolve? doc = some target)
      (same : target.same value) : Step (.test path value) doc doc

end Operation

namespace Pointer

theorem indexBelow?_eq_some_iff {token : String} {length i : Nat} :
    indexBelow? token length = some i ↔ index? token = some i ∧ i < length := by
  simp [indexBelow?, Option.filter_eq_some_iff]

theorem index?_dash : index? "-" = none := by decide

end Pointer

namespace Members

theorem split_of_get? {token : String} {members : Members} {value : Json}
    (there : members.get? token = some value) :
    ∃ front behind : Members, members = front ++ (token, value) :: behind ∧ token ∉ front.keys := by
  induction members with
  | nil => cases there
  | cons member rest ih =>
    obtain ⟨k, v⟩ := member
    by_cases here : k = token
    · obtain rfl : v = value := by simpa [get?, here] using there
      exact ⟨[], rest, by simp [here], by simp [keys]⟩
    · obtain ⟨front, behind, rfl, first⟩ := ih (by simpa [get?, here] using there)
      refine ⟨(k, v) :: front, behind, rfl, ?_⟩
      simpa [keys, Ne.symm here] using first

theorem get?_first {token : String} {front : Members} (first : token ∉ front.keys) (value : Json)
    (behind : Members) :
    get? token (front ++ (token, value) :: behind) = some value := by
  rw [get?_append, (get?_eq_none_iff token front).mpr first]
  simp [get?]

theorem erase_first {token : String} {front : Members} (first : token ∉ front.keys) (value : Json)
    (behind : Members) :
    erase token (front ++ (token, value) :: behind) =
      front ++ erase token ((token, value) :: behind) := by
  induction front with
  | nil => rfl
  | cons member rest ih =>
    obtain ⟨k, v⟩ := member
    simp only [keys, List.map_cons, List.mem_cons, not_or] at first
    simp [erase, Ne.symm first.1, ih first.2]

end Members

theorem Pointer.resolve?_append (outer inner : Pointer) (doc : Json) :
    resolve? (outer ++ inner) doc = (outer.resolve? doc).bind inner.resolve? := by
  induction outer generalizing doc with
  | nil => rfl
  | cons token rest ih =>
    cases doc with
    | object members =>
      rcases there : Members.get? token members with _ | v
      · simp [resolve?, there]
      · simp [resolve?, there, ih]
    | array items =>
      rcases there : (index? token).bind (items[·]?) with _ | v
      · simp [resolve?, there]
      · simp [resolve?, there, ih]
    | _ => rfl

namespace Within

variable {change other : Json → Json → Prop} {path : Pointer} {doc after : Json}

theorem mono (within : Within change path doc after) (step : ∀ v w, change v w → other v w) :
    Within other path doc after := by
  induction within with
  | here changed => exact .here (step _ _ changed)
  | member there _ ih => exact .member there ih
  | item index there _ ih => exact .item index there ih

theorem changes (within : Within change path doc after) : ∃ v w, change v w := by
  induction within with
  | here changed => exact ⟨_, _, changed⟩
  | member _ _ ih => exact ih
  | item _ _ _ ih => exact ih

/-- What changes is the value that the pointer leads to. -/
theorem resolves (within : Within change path doc after) :
    ∃ value, path.resolve? doc = some value ∧
      Within (fun v w => v = value ∧ change v w) path doc after := by
  induction within with
  | here changed => exact ⟨_, rfl, .here ⟨rfl, changed⟩⟩
  | member there _ ih =>
    obtain ⟨value, found, inside⟩ := ih
    exact ⟨value, by simp [Pointer.resolve?, there, found], .member there inside⟩
  | item index there _ ih =>
    obtain ⟨value, found, inside⟩ := ih
    exact ⟨value, by simp [Pointer.resolve?, index, there, found], .item index there inside⟩

end Within

namespace Operation

open Pointer (indexBelow?_eq_some_iff)

variable {path parent : Pointer} {token : String} {value doc after : Json}

theorem editAt_ok_iff {edit : Json → Applied Json} :
    editAt edit path doc = .ok after ↔ Within (fun v w => edit v = .ok w) path doc after := by
  constructor
  · intro run
    induction path generalizing doc after with
    | nil => exact .here run
    | cons token rest ih =>
      cases doc with
      | object members =>
        rcases there : Members.get? token members with _ | v
        · simp [editAt, there] at run
        · simp only [editAt, there] at run
          obtain ⟨w, inside, run⟩ := bind_ok run
          obtain rfl : Json.object (Members.set token w members) = after := Except.ok.inj run
          exact .member there (ih inside)
      | array items =>
        rcases index : Pointer.indexBelow? token items.length with _ | i
        · simp [editAt, index] at run
        · rcases there : items[i]? with _ | v
          · simp [editAt, index, there] at run
          · simp only [editAt, index, there] at run
            obtain ⟨w, inside, run⟩ := bind_ok run
            obtain rfl : Json.array (items.set i w) = after := Except.ok.inj run
            exact .item (indexBelow?_eq_some_iff.mp index).1 there (ih inside)
      | _ => cases run
  · intro within
    induction within with
    | here changed => exact changed
    | member there _ ih => simp [editAt, there, ih, bind, Except.bind, pure, Except.pure]
    | @item token rest items i v w index there _ ih =>
      have below : i < items.length := (List.getElem?_eq_some_iff.mp there).1
      have index := indexBelow?_eq_some_iff.mpr ⟨index, below⟩
      simp [editAt, index, there, ih, bind, Except.bind, pure, Except.pure]

theorem insertInto_ok_iff :
    insertInto token value doc = .ok after ↔ Inserted value token doc after := by
  constructor
  · intro run
    cases doc with
    | object members =>
      obtain rfl : Json.object (Members.set token value members) = after := Except.ok.inj run
      exact .member token members
    | array items =>
      by_cases last : token = "-"
      · rw [insertInto, if_pos last] at run
        obtain rfl : Json.array (items ++ [value]) = after := Except.ok.inj run
        subst last
        exact .last items
      · rw [insertInto, if_neg last] at run
        rcases index : Pointer.indexBelow? token (items.length + 1) with _ | i
        · simp [index] at run
        · simp only [index] at run
          obtain rfl : Json.array (items.take i ++ value :: items.drop i) = after :=
            Except.ok.inj run
          obtain ⟨index, below⟩ := indexBelow?_eq_some_iff.mp index
          have long : (items.take i).length = i := by
            rw [List.length_take]
            omega
          have inserted : Inserted value token (.array (items.take i ++ items.drop i))
              (.array (items.take i ++ value :: items.drop i)) := .item (by rw [index, long])
          rwa [List.take_append_drop] at inserted
    | _ => cases run
  · intro inserted
    cases inserted with
    | member => rfl
    | last => simp [insertInto]
    | @item _ front behind index =>
      have inner : token ≠ "-" := by
        rintro rfl
        rw [Pointer.index?_dash] at index
        cases index
      have below : Pointer.indexBelow? token ((front ++ behind).length + 1) = some front.length :=
        indexBelow?_eq_some_iff.mpr ⟨index, by rw [List.length_append]; omega⟩
      rw [insertInto, if_neg inner, below]
      simp

theorem takeFrom_ok_iff :
    takeFrom token doc = .ok after ∧ Pointer.resolve? [token] doc = some value ↔
      Taken value token doc after := by
  constructor
  · rintro ⟨run, found⟩
    cases doc with
    | object members =>
      obtain ⟨v, there, same⟩ := Option.bind_eq_some_iff.mp found
      obtain rfl : v = value := Option.some.inj same
      obtain ⟨front, behind, rfl, first⟩ := Members.split_of_get? there
      have held : Members.has token (front ++ (token, v) :: behind) = true := by
        rw [Members.has, there]
        rfl
      rw [takeFrom, if_pos held, Members.erase_first first] at run
      obtain rfl := Except.ok.inj run
      rcases ends : behind.getLast? with _ | last
      · obtain rfl : behind = [] := List.getLast?_eq_none_iff.mp ends
        simpa [Members.erase] using Taken.last first
      · obtain ⟨middle, rfl⟩ := List.getLast?_eq_some_iff.mp ends
        simpa [Members.erase] using Taken.swapped first
    | array items =>
      rcases index : Pointer.indexBelow? token items.length with _ | i
      · simp [takeFrom, index] at run
      · simp only [takeFrom, index] at run
        obtain rfl := Except.ok.inj run
        obtain ⟨index, below⟩ := indexBelow?_eq_some_iff.mp index
        obtain rfl : items[i] = value := by
          simpa [Pointer.resolve?, index, below] using found
        have long : (items.take i).length = i := by
          rw [List.length_take]
          omega
        have taken : Taken items[i] token
            (.array (items.take i ++ items[i] :: items.drop (i + 1)))
            (.array (items.take i ++ items.drop (i + 1))) := .item (by rw [index, long])
        rwa [← List.eraseIdx_eq_take_drop_succ, List.getElem_cons_drop, List.take_append_drop]
          at taken
    | _ => cases run
  · intro taken
    cases taken with
    | last first =>
      have found := Members.get?_first first value []
      have erased := Members.erase_first first value []
      simp [takeFrom, Members.has, found, erased, Members.erase, Pointer.resolve?]
    | @swapped front middle last first =>
      have found := Members.get?_first first value (middle ++ [last])
      have erased := Members.erase_first first value (middle ++ [last])
      simp [takeFrom, Members.has, found, erased, Members.erase, Pointer.resolve?]
    | @item front behind index =>
      have below : Pointer.indexBelow? token (front ++ value :: behind).length =
          some front.length :=
        indexBelow?_eq_some_iff.mpr ⟨index, by simp⟩
      rw [takeFrom, below]
      simp [index, Pointer.resolve?, List.eraseIdx_append_of_length_le]

theorem takeFrom_resolves (run : takeFrom token doc = .ok after) :
    ∃ value, Pointer.resolve? [token] doc = some value := by
  cases doc with
  | object members =>
    rcases there : Members.get? token members with _ | v
    · simp [takeFrom, Members.has, there] at run
    · exact ⟨v, by simp [Pointer.resolve?, there]⟩
  | array items =>
    rcases index : Pointer.indexBelow? token items.length with _ | i
    · simp [takeFrom, index] at run
    · obtain ⟨index, below⟩ := indexBelow?_eq_some_iff.mp index
      exact ⟨items[i], by simp [Pointer.resolve?, index, below]⟩
  | _ => cases run

theorem insertAt_ok_iff : insertAt path value doc = .ok after ↔ Puts value path doc after := by
  constructor
  · intro run
    rcases ends : path.getLast? with _ | token
    · obtain rfl : path = [] := List.getLast?_eq_none_iff.mp ends
      obtain rfl : value = after := Except.ok.inj run
      exact .root doc
    · obtain ⟨parent, rfl⟩ := List.getLast?_eq_some_iff.mp ends
      simp only [insertAt, List.getLast?_concat, List.dropLast_concat] at run
      exact .under ((editAt_ok_iff.mp run).mono fun _ _ => insertInto_ok_iff.mp)
  · intro put
    cases put with
    | root => rfl
    | under inside =>
      simp only [insertAt, List.getLast?_concat, List.dropLast_concat]
      exact editAt_ok_iff.mpr (inside.mono fun _ _ => insertInto_ok_iff.mpr)

theorem takeAt_ok_iff :
    takeAt path doc = .ok after ∧ path.resolve? doc = some value ↔ Takes value path doc after := by
  constructor
  · rintro ⟨run, found⟩
    rcases ends : path.getLast? with _ | token
    · simp [takeAt, ends] at run
    · obtain ⟨parent, rfl⟩ := List.getLast?_eq_some_iff.mp ends
      simp only [takeAt, List.getLast?_concat, List.dropLast_concat] at run
      obtain ⟨outer, there, inside⟩ := (editAt_ok_iff.mp run).resolves
      rw [Pointer.resolve?_append, there] at found
      refine .under (inside.mono ?_)
      rintro v w ⟨rfl, taken⟩
      exact takeFrom_ok_iff.mp ⟨taken, found⟩
  · intro takes
    cases takes with
    | @under parent token _ _ inside =>
      constructor
      · simp only [takeAt, List.getLast?_concat, List.dropLast_concat]
        exact editAt_ok_iff.mpr (inside.mono fun _ _ taken => (takeFrom_ok_iff.mpr taken).1)
      · obtain ⟨outer, there, inside⟩ := inside.resolves
        obtain ⟨v, w, rfl, taken⟩ := inside.changes
        rw [Pointer.resolve?_append, there]
        exact (takeFrom_ok_iff.mpr taken).2

theorem takeAt_resolves (run : takeAt path doc = .ok after) :
    ∃ value, path.resolve? doc = some value := by
  rcases ends : path.getLast? with _ | token
  · simp [takeAt, ends] at run
  · obtain ⟨parent, rfl⟩ := List.getLast?_eq_some_iff.mp ends
    simp only [takeAt, List.getLast?_concat, List.dropLast_concat] at run
    obtain ⟨outer, there, inside⟩ := (editAt_ok_iff.mp run).resolves
    obtain ⟨v, w, rfl, taken⟩ := inside.changes
    rw [Pointer.resolve?_append, there]
    exact takeFrom_resolves taken

/-- An operation applies exactly if there is a step. -/
theorem apply_ok_iff {op : Operation} : op.apply doc = .ok after ↔ op.Step doc after := by
  cases op with
  | add path value =>
    constructor
    · intro run
      exact .add (insertAt_ok_iff.mp run)
    · intro step
      cases step with
      | add put => exact insertAt_ok_iff.mpr put
  | remove path =>
    constructor
    · intro run
      obtain ⟨value, found⟩ := takeAt_resolves run
      exact .remove (takeAt_ok_iff.mp ⟨run, found⟩)
    · intro step
      cases step with
      | remove taken => exact (takeAt_ok_iff.mpr taken).1
  | replace path value =>
    constructor
    · intro run
      exact .replace ((editAt_ok_iff.mp run).mono fun _ _ same => (Except.ok.inj same).symm)
    · intro step
      cases step with
      | replace replaced =>
        exact editAt_ok_iff.mpr (replaced.mono fun _ _ same => congrArg Except.ok same.symm)
  | move source path =>
    constructor
    · intro run
      rcases outside : source.isInside path with _ | _
      · rw [apply, outside, if_neg (by simp)] at run
        rcases taken : takeAt source doc with fault | rest
        · simp [taken] at run
        · obtain ⟨value, found⟩ := takeAt_resolves taken
          simp only [taken, found] at run
          exact .move outside (takeAt_ok_iff.mp ⟨taken, found⟩) (insertAt_ok_iff.mp run)
      · rw [apply, outside, if_pos rfl] at run
        cases run
    · intro step
      cases step with
      | move outside taken put =>
        obtain ⟨taken, found⟩ := takeAt_ok_iff.mpr taken
        rw [apply, outside, if_neg (by simp), taken, found]
        exact insertAt_ok_iff.mpr put
  | copy source path =>
    constructor
    · intro run
      rcases found : source.resolve? doc with _ | value
      · simp [apply, found] at run
      · simp only [apply, found] at run
        exact .copy found (insertAt_ok_iff.mp run)
    · intro step
      cases step with
      | copy found put =>
        rw [apply, found]
        exact insertAt_ok_iff.mpr put
  | test path value =>
    constructor
    · intro run
      rcases found : path.resolve? doc with _ | target
      · simp [apply, found] at run
      · simp only [apply, found] at run
        by_cases same : target.same value
        · rw [if_pos same] at run
          obtain rfl : doc = after := Except.ok.inj run
          exact .test found same
        · rw [if_neg same] at run
          cases run
    · intro step
      cases step with
      | test found same =>
        rw [apply, found]
        exact if_pos same

end Operation
end JobGate
