import JobGate.Proofs.RoundTrips
import Mathlib.Data.List.Forall2
import Mathlib.Data.List.Perm.Subperm

/-!
Documents up to the order of members. `Json.Alike` says when two documents are one and the same:
arrays agree item by item, objects key by key in whatever order, and numbers of one kind by their
value. That is an equivalence (`Json.alike_equivalence`), and it is what `Json.same` decides of a
document that was read, in which no object has a key twice (`Json.same_iff_alike`).
-/
namespace JobGate

/-- Numbers of one kind with one value. Only a zero has two representations, as a double. -/
inductive Number.Alike : Number → Number → Prop where
  | refl (n : Number) : Alike n n
  | zeros (a b : Bool) : Alike (.double (.zero a)) (.double (.zero b))

theorem Binary64.eq_zero_of_isZero {x : Binary64} (none : x.isZero) : x = .zero x.negative := by
  obtain ⟨negative, mantissa, exponent, canonical⟩ := x
  obtain rfl : mantissa = 0 := by simpa [isZero] using none
  obtain rfl : exponent = -1074 := by
    obtain ⟨-, -, -, large | least⟩ := canonical
    · omega
    · exact least
  rfl

theorem Binary64.equals_iff {x y : Binary64} :
    x.equals y = true ↔ x = y ∨ ∃ a b, x = .zero a ∧ y = .zero b := by
  constructor
  · intro equal
    obtain ⟨⟨mantissa, exponent⟩, sign⟩ :
        (x.mantissa = y.mantissa ∧ x.exponent = y.exponent) ∧
          (x.negative = y.negative ∨ x.isZero = true) := by
      simpa [equals] using equal
    rcases sign with sign | none
    · left
      obtain ⟨negative, mantissa, exponent, canonical⟩ := x
      cases sign
      cases mantissa
      cases exponent
      rfl
    · right
      have none' : y.isZero = true := by simpa [isZero, mantissa] using none
      exact ⟨_, _, eq_zero_of_isZero none, eq_zero_of_isZero none'⟩
  · rintro (rfl | ⟨a, b, rfl, rfl⟩)
    · simp [equals]
    · simp [equals, zero, isZero]

theorem Number.same_iff_alike {a b : Number} : a.same b = true ↔ a.Alike b := by
  constructor
  · intro same
    cases a with
    | whole m =>
      cases b with
      | whole n =>
        obtain rfl : m = n := by simpa [Number.same] using same
        exact .refl _
      | double y => cases same
    | double x =>
      cases b with
      | whole n => cases same
      | double y =>
        obtain rfl | ⟨p, q, rfl, rfl⟩ := Binary64.equals_iff.mp same
        · exact .refl _
        · exact .zeros p q
  · intro alike
    cases alike with
    | refl =>
      cases a with
      | whole m => simp [Number.same]
      | double x => exact Binary64.equals_iff.mpr (.inl rfl)
    | zeros p q => exact Binary64.equals_iff.mpr (.inr ⟨p, q, rfl, rfl⟩)

/-- The same document up to the order of members. -/
inductive Json.Alike : Json → Json → Prop where
  | null : Alike .null .null
  | bool (b : Bool) : Alike (.bool b) (.bool b)
  | number {a b : Number} (same : a.Alike b) : Alike (.number a) (.number b)
  | string (s : String) : Alike (.string s) (.string s)
  | array {xs ys : List Json} (each : List.Forall₂ Alike xs ys) : Alike (.array xs) (.array ys)
  /-- The members of the one, put in another order, have the keys of the other, and values that are
      alike. -/
  | object {xs zs ys : Members} (order : xs.Perm zs) (keys : zs.keys = ys.keys)
      (values : List.Forall₂ Alike (zs.map (·.2)) (ys.map (·.2))) :
      Alike (.object xs) (.object ys)

/-- Documents are built of the documents inside them. -/
@[elab_as_elim]
theorem Json.inductOn {motive : Json → Prop} (null : motive .null)
    (bool : ∀ b, motive (.bool b)) (number : ∀ n, motive (.number n))
    (string : ∀ s, motive (.string s))
    (array : ∀ items, (∀ v ∈ items, motive v) → motive (.array items))
    (object : ∀ members : Members, (∀ member ∈ members, motive member.2) →
      motive (.object members)) (v : Json) : motive v :=
  @Json.rec motive (fun items => ∀ v ∈ items, motive v)
    (fun members => ∀ member ∈ members, motive member.2) (fun member => motive member.2)
    null bool number string array object (List.forall_mem_nil _)
    (fun _ _ first later => List.forall_mem_cons.mpr ⟨first, later⟩) (List.forall_mem_nil _)
    (fun _ _ first later => List.forall_mem_cons.mpr ⟨first, later⟩) (fun _ _ value => value) v

section
variable {α β : Type} {R S : α → β → Prop} {xs : List α} {ys : List β}

theorem forall₂_imp_mem (each : List.Forall₂ R xs ys) (step : ∀ a ∈ xs, ∀ b, R a b → S a b) :
    List.Forall₂ S xs ys :=
  ((List.forall₂_and_left xs ys).mpr ⟨step, each⟩).imp fun _ b both => both.1 b both.2

theorem forall₂_trans {γ : Type} {T : β → γ → Prop} {zs : List γ} (first : List.Forall₂ R xs ys)
    (second : List.Forall₂ T ys zs) : List.Forall₂ (fun a c => ∃ b, R a b ∧ T b c) xs zs := by
  induction first generalizing zs with
  | nil =>
    cases second
    exact .nil
  | cons here _ ih =>
    cases second with
    | cons there rest => exact .cons ⟨_, here, there⟩ (ih rest)

end

/-- Two members with one key and related values. -/
def Members.Paired (related : Json → Json → Prop) (a b : String × Json) : Prop :=
  a.1 = b.1 ∧ related a.2 b.2

theorem Members.forall₂_paired_iff {related : Json → Json → Prop} {a b : Members} :
    List.Forall₂ (Paired related) a b ↔
      a.keys = b.keys ∧ List.Forall₂ related (a.map (·.2)) (b.map (·.2)) := by
  induction a generalizing b with
  | nil => cases b <;> simp [keys]
  | cons first rest ih =>
    cases b with
    | nil => simp
    | cons other others =>
      have tail := ih (b := others)
      simp only [keys] at tail
      simp only [List.forall₂_cons, tail, Paired, keys, List.map_cons, List.cons.injEq]
      exact and_and_and_comm

namespace Json

open Members (Paired)

theorem alike_array_iff {xs : List Json} {w : Json} :
    Alike (.array xs) w ↔ ∃ ys, w = .array ys ∧ List.Forall₂ Alike xs ys := by
  constructor
  · intro alike
    cases alike with
    | array each => exact ⟨_, rfl, each⟩
  · rintro ⟨ys, rfl, each⟩
    exact .array each

theorem alike_object_iff {xs : Members} {w : Json} :
    Alike (.object xs) w ↔
      ∃ zs ys, w = .object ys ∧ xs.Perm zs ∧ List.Forall₂ (Paired Alike) zs ys := by
  constructor
  · intro alike
    cases alike with
    | object order keys values =>
      exact ⟨_, _, rfl, order, Members.forall₂_paired_iff.mpr ⟨keys, values⟩⟩
  · rintro ⟨zs, ys, rfl, order, each⟩
    obtain ⟨keys, values⟩ := Members.forall₂_paired_iff.mp each
    exact .object order keys values

/-- Members related one by one can be put in order before or after. -/
theorem perm_paired {related : Json → Json → Prop} {xs ys zs : Members}
    (each : List.Forall₂ (Paired related) xs ys) (order : ys.Perm zs) :
    ∃ ws : Members, xs.Perm ws ∧ List.Forall₂ (Paired related) ws zs := by
  have both : Relation.Comp (List.Forall₂ (Paired related)) List.Perm xs zs := ⟨ys, each, order⟩
  rw [List.forall₂_comp_perm_eq_perm_comp_forall₂] at both
  exact both

theorem Alike.refl (v : Json) : Alike v v := by
  induction v using Json.inductOn with
  | null => exact .null
  | bool b => exact .bool b
  | number n => exact .number (.refl n)
  | string s => exact .string s
  | array items ih => exact .array (List.forall₂_same.mpr ih)
  | object members ih =>
    exact alike_object_iff.mpr ⟨members, members, rfl, .refl members,
      List.forall₂_same.mpr fun member there => ⟨rfl, ih member there⟩⟩

theorem Alike.symm {v w : Json} (alike : Alike v w) : Alike w v := by
  induction v using Json.inductOn generalizing w with
  | null =>
    cases alike
    exact .null
  | bool b =>
    cases alike
    exact .bool b
  | number n =>
    cases alike with
    | number same =>
      refine .number ?_
      cases same with
      | refl => exact .refl n
      | zeros a b => exact .zeros b a
  | string s =>
    cases alike
    exact .string s
  | array xs ih =>
    obtain ⟨ys, rfl, each⟩ := alike_array_iff.mp alike
    exact .array (forall₂_imp_mem each fun v there w => ih v there).flip
  | object xs ih =>
    obtain ⟨zs, ys, rfl, order, each⟩ := alike_object_iff.mp alike
    have turned : List.Forall₂ (Paired Alike) ys zs :=
      (forall₂_imp_mem each fun member there other (both : Paired Alike member other) =>
        ⟨both.1.symm, ih member (order.mem_iff.mpr there) both.2⟩).flip
    obtain ⟨ws, order', each'⟩ := perm_paired turned order.symm
    exact alike_object_iff.mpr ⟨ws, xs, rfl, order', each'⟩

theorem Alike.trans {u v w : Json} (first : Alike u v) (second : Alike v w) : Alike u w := by
  induction u using Json.inductOn generalizing v w with
  | null =>
    cases first
    exact second
  | bool b =>
    cases first
    exact second
  | number n =>
    cases first with
    | number same =>
      cases second with
      | number same' =>
        refine .number ?_
        cases same with
        | refl => exact same'
        | zeros a b =>
          cases same' with
          | refl => exact .zeros a b
          | zeros _ c => exact .zeros a c
  | string s =>
    cases first
    exact second
  | array xs ih =>
    obtain ⟨ys, rfl, each⟩ := alike_array_iff.mp first
    obtain ⟨zs, rfl, each'⟩ := alike_array_iff.mp second
    refine .array (forall₂_imp_mem (forall₂_trans each each') ?_)
    rintro v there w ⟨between, here, after⟩
    exact ih v there here after
  | object xs ih =>
    obtain ⟨zs, ys, rfl, order, each⟩ := alike_object_iff.mp first
    obtain ⟨ys', ws, rfl, order', each'⟩ := alike_object_iff.mp second
    -- the order in the middle is made that of the members on the left
    obtain ⟨qs, reorder, each⟩ := perm_paired each order'
    have order := order.trans reorder
    refine alike_object_iff.mpr ⟨qs, ws, rfl, order, forall₂_imp_mem (forall₂_trans each each') ?_⟩
    rintro member there other ⟨between, here, after⟩
    exact ⟨here.1.trans after.1, ih member (order.mem_iff.mpr there) here.2 after.2⟩

theorem alike_equivalence : Equivalence Alike := ⟨Alike.refl, Alike.symm, Alike.trans⟩

theorem sameItems_iff {xs ys : List Json} :
    sameItems xs ys = true ↔ List.Forall₂ (fun v w => v.same w = true) xs ys := by
  induction xs generalizing ys with
  | nil => cases ys <;> simp [sameItems]
  | cons v rest ih => cases ys <;> simp [sameItems, ih]

theorem sameMembers_iff {xs ys : Members} :
    sameMembers xs ys = true ↔
      ∀ member ∈ xs, ∃ w, ys.get? member.1 = some w ∧ member.2.same w = true := by
  induction xs with
  | nil => simp [sameMembers]
  | cons member rest ih =>
    obtain ⟨key, v⟩ := member
    rcases there : ys.get? key with _ | w
    · simp [sameMembers, there]
    · simp [sameMembers, there, ih]

theorem ReadsBack.items {room : Room} {items : List Json} (back : (Json.array items).ReadsBack room) :
    ∃ inner, ∀ v ∈ items, v.ReadsBack inner := by
  obtain ⟨inner, entered, back⟩ := bind_ok back
  obtain ⟨found, taken, back⟩ := bind_ok back
  obtain ⟨_, _, back⟩ := bind_ok back
  obtain rfl : found = items := Json.array.inj (Except.ok.inj back)
  exact ⟨inner, readsBack_items _ taken⟩

theorem ReadsBack.members {room : Room} {members : Members}
    (back : (Json.object members).ReadsBack room) :
    members.keys.Nodup ∧ ∃ inner, members.ReadBack inner := by
  obtain ⟨inner, entered, back⟩ := bind_ok back
  obtain ⟨pairs, taken, back⟩ := bind_ok back
  obtain ⟨_, _, back⟩ := bind_ok back
  obtain rfl : Members.ofPairs pairs = members := Json.object.inj (Except.ok.inj back)
  exact ⟨Members.nodup_keys_ofPairs pairs, inner, fun member there =>
    readsBack_members _ taken member (Members.mem_of_mem_ofPairs there)⟩

/-- Members of which each finds a partner among as many others, at most, have all of them as
    partners. -/
theorem paired_of_get? {related : Json → Json → Prop} {xs ys : Members} (once : xs.keys.Nodup)
    (few : ys.length ≤ xs.length)
    (found : ∀ member ∈ xs, ∃ w, ys.get? member.1 = some w ∧ related member.2 w) :
    ∃ zs : Members, xs.Perm zs ∧ List.Forall₂ (Paired related) zs ys := by
  have partners : ∃ ws : Members, List.Forall₂ (Paired related) xs ws ∧ ws ⊆ ys := by
    clear once few
    induction xs with
    | nil => exact ⟨[], .nil, List.nil_subset ys⟩
    | cons member rest ih =>
      obtain ⟨ws, each, among⟩ := ih fun other there => found other (.tail _ there)
      obtain ⟨w, there, both⟩ := found member (.head rest)
      exact ⟨(member.1, w) :: ws, .cons ⟨rfl, both⟩ each,
        List.cons_subset.mpr ⟨Members.mem_of_get? there, among⟩⟩
  obtain ⟨ws, each, among⟩ := partners
  -- the partners are distinct, for their keys are, and no fewer than the others
  have keys : ws.keys = xs.keys := (Members.forall₂_paired_iff.mp each).1.symm
  have distinct : ws.Nodup := List.Nodup.of_map _ (keys ▸ once)
  have all : ws.Perm ys :=
    (List.subperm_of_subset distinct among).perm_of_length_le (each.length_eq ▸ few)
  exact perm_paired each all

theorem get?_of_paired {related : Json → Json → Prop} {xs zs ys : Members} (once : xs.keys.Nodup)
    (order : xs.Perm zs) (each : List.Forall₂ (Paired related) zs ys) :
    ∀ member ∈ xs, ∃ w, ys.get? member.1 = some w ∧ related member.2 w := by
  intro member there
  have keys : zs.keys = ys.keys := (Members.forall₂_paired_iff.mp each).1
  have distinct : ys.keys.Nodup := keys ▸ (order.map Prod.fst).nodup_iff.mp once
  obtain ⟨⟨key, w⟩, among, same, both⟩ := forall₂_right each (order.mem_iff.mp there)
  refine ⟨w, ?_, both⟩
  rw [← Members.mem_iff_get? distinct, same]
  exact among

/-- Documents are compared as equality asks for, if the first was read from somewhere. -/
theorem same_iff_alike {room : Room} {v w : Json} (back : v.ReadsBack room) :
    v.same w = true ↔ Alike v w := by
  induction v using Json.inductOn generalizing room w with
  | null =>
    constructor
    · intro equal
      cases w with
      | null => exact .null
      | _ => cases equal
    · rintro ⟨⟩
      rfl
  | bool b =>
    constructor
    · intro equal
      cases w with
      | bool c =>
        obtain rfl : b = c := by simpa [same] using equal
        exact .bool b
      | _ => cases equal
    · rintro ⟨⟩
      simp [same]
  | number n =>
    constructor
    · intro equal
      cases w with
      | number m => exact .number (Number.same_iff_alike.mp equal)
      | _ => cases equal
    · rintro ⟨⟩
      rename_i m alike
      exact Number.same_iff_alike.mpr alike
  | string s =>
    constructor
    · intro equal
      cases w with
      | string t =>
        obtain rfl : s = t := by simpa [same] using equal
        exact .string s
      | _ => cases equal
    · rintro ⟨⟩
      simp [same]
  | array xs ih =>
    obtain ⟨inner, back⟩ := back.items
    cases w with
    | array ys =>
      rw [alike_array_iff]
      simp only [same, sameItems_iff, Json.array.injEq, exists_eq_left']
      constructor
      · exact fun each => forall₂_imp_mem each fun v there w => (ih v there (back v there)).mp
      · exact fun each => forall₂_imp_mem each fun v there w => (ih v there (back v there)).mpr
    | _ => simp [same, alike_array_iff]
  | object xs ih =>
    obtain ⟨once, inner, back⟩ := back.members
    cases w with
    | object ys =>
      simp only [same, Bool.and_eq_true, beq_iff_eq, sameMembers_iff]
      rw [alike_object_iff]
      constructor
      · rintro ⟨length, found⟩
        obtain ⟨zs, order, each⟩ := paired_of_get? once (Nat.le_of_eq length.symm) fun member there => by
          obtain ⟨w, partner, same⟩ := found member there
          exact ⟨w, partner, (ih member there (back member there)).mp same⟩
        exact ⟨zs, ys, rfl, order, each⟩
      · rintro ⟨zs, ys', same, order, each⟩
        obtain rfl := Json.object.inj same
        refine ⟨order.length_eq.trans each.length_eq, fun member there => ?_⟩
        obtain ⟨w, partner, alike⟩ := get?_of_paired once order each member there
        exact ⟨w, partner, (ih member there (back member there)).mpr alike⟩
    | _ => simp [same, alike_object_iff]

end Json

end JobGate
