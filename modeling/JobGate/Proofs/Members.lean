import JobGate.Json.Basic
import Mathlib.Data.List.Induction
import Mathlib.Data.List.Nodup

/-!
Members of an object as what a look-up finds. `Members.Collapse` says which members the pairs of a
text come to: each key once, at its first place, with its last value (`collapse_ofPairs`); they
come to it key by key (`ofPairs_filter`). Members with each key once are the same up to their order
when every look-up is (`perm_of_get?`), and the same without a key if they differ at it only
(`DifferAt.erase`). Setting a key leaves all other members in their places (`sameBeside_set`).
-/
namespace JobGate

namespace Members

theorem keys_set (key : String) (value : Json) (members : Members) :
    (members.set key value).keys =
      if key ∈ members.keys then members.keys else members.keys ++ [key] := by
  induction members with
  | nil => simp [set, keys]
  | cons member rest ih =>
    obtain ⟨k, v⟩ := member
    rw [keys, keys] at ih
    by_cases here : k = key
    · simp [set, keys, here]
    · have other : key ≠ k := Ne.symm here
      by_cases later : key ∈ rest.map (·.1)
      · rw [if_pos later] at ih
        simp only [set, here, if_false, keys, List.map_cons, ih, List.mem_cons, later, or_true,
          if_true]
      · rw [if_neg later] at ih
        simp only [set, here, if_false, keys, List.map_cons, ih, List.mem_cons, later, other,
          or_self, List.cons_append]

theorem get?_set (key other : String) (value : Json) (members : Members) :
    (members.set key value).get? other =
      if other = key then some value else members.get? other := by
  induction members with
  | nil => simp [set, get?, eq_comm]
  | cons member rest ih =>
    obtain ⟨k, v⟩ := member
    by_cases here : k = key
    · by_cases asked : other = key
      · simp [set, get?, here, asked]
      · simp [set, get?, here, asked, Ne.symm asked]
    · by_cases found : k = other
      · subst found
        simp [set, get?, here]
      · simp [set, get?, here, found, ih]

theorem ofPairs_concat (pairs : List (String × Json)) (key : String) (value : Json) :
    ofPairs (pairs ++ [(key, value)]) = (ofPairs pairs).set key value := by
  simp [ofPairs]

/-- Pairs come to members: each key stands once, at its first place, with its last value. -/
structure Collapse (pairs : List (String × Json)) (members : Members) : Prop where
  order : members.keys = (pairs.map (·.1)).eraseDups
  last : ∀ key, members.get? key = pairs.reverse.lookup key

theorem collapse_ofPairs (pairs : List (String × Json)) : Collapse pairs (ofPairs pairs) := by
  induction pairs using List.reverseRecOn with
  | nil => exact ⟨rfl, fun _ => rfl⟩
  | append_singleton earlier pair ih =>
    obtain ⟨k, v⟩ := pair
    constructor
    · rw [ofPairs_concat, keys_set, ih.order, List.map_append, List.eraseDups_append]
      by_cases there : k ∈ earlier.map (·.1)
      · have nothing : ([k] : List String).removeAll (earlier.map (·.1)) = [] := by
          simpa [List.removeAll] using there
        rw [if_pos (List.mem_eraseDups.mpr there)]
        simp [nothing]
      · have single : ([k] : List String).removeAll (earlier.map (·.1)) = [k] := by
          simpa [List.removeAll] using there
        rw [if_neg (mt List.mem_eraseDups.mp there)]
        simp [single, List.eraseDups_cons]
    · intro key
      rw [ofPairs_concat, get?_set, ih.last, List.reverse_append]
      by_cases asked : key = k
      · simp [asked]
      · have other : (key == k) = false := by simpa using asked
        simp [List.lookup_cons, asked, other]

theorem get?_filter (p : String → Bool) (key : String) (members : Members) :
    get? key (members.filter (p ·.1)) = if p key then members.get? key else none := by
  induction members with
  | nil => simp [get?]
  | cons member rest ih =>
    obtain ⟨k, v⟩ := member
    by_cases kept : p k
    · by_cases here : k = key
      · subst here
        simp [get?, kept]
      · simp [get?, kept, here, ih]
    · by_cases here : k = key
      · subst here
        simp [kept, ih]
      · simp [get?, kept, here, ih]

theorem get?_append (key : String) (a b : Members) :
    get? key (a ++ b) = (a.get? key).or (b.get? key) := by
  induction a with
  | nil => simp [get?]
  | cons member rest ih =>
    obtain ⟨k, v⟩ := member
    by_cases here : k = key
    · simp [get?, here]
    · simpa [get?, here] using ih

theorem get?_eq_none_iff (key : String) (members : Members) :
    members.get? key = none ↔ key ∉ members.keys := by
  induction members with
  | nil => simp [get?, keys]
  | cons member rest ih =>
    obtain ⟨k, v⟩ := member
    rw [keys] at ih
    by_cases here : k = key
    · simp [get?, keys, here]
    · simp [get?, keys, here, Ne.symm here, ih]

theorem get?_without (names : List String) (key : String) (members : Members) :
    (members.without names).get? key = if key ∈ names then none else members.get? key := by
  rw [without, get?_filter (!names.contains ·)]
  by_cases among : key ∈ names
  · simp [among]
  · simp [among]

theorem nodup_keys_without {members : Members} (once : members.keys.Nodup) (names : List String) :
    (members.without names).keys.Nodup :=
  (List.filter_sublist.map _).nodup once

theorem mem_keys_without (names : List String) (key : String) (members : Members) :
    key ∈ (members.without names).keys ↔ key ∉ names ∧ key ∈ members.keys := by
  have found := get?_eq_none_iff key (members.without names)
  rw [get?_without] at found
  by_cases among : key ∈ names
  · simpa [among] using found
  · simpa [among, get?_eq_none_iff, not_iff_not] using found.symm

theorem filter_set (p : String → Bool) (key : String) (value : Json) (members : Members) :
    (members.set key value).filter (p ·.1) =
      if p key then set key value (members.filter (p ·.1)) else members.filter (p ·.1) := by
  induction members with
  | nil => by_cases kept : p key <;> simp [set, kept]
  | cons member rest ih =>
    obtain ⟨k, v⟩ := member
    by_cases here : k = key
    · subst here
      by_cases kept : p k
      · simp [set, kept]
      · simp [set, kept]
    · by_cases kept : p k
      · by_cases wanted : p key
        · simp [set, here, kept, wanted, ih]
        · simp [set, here, kept, wanted, ih]
      · simp [set, here, kept, ih]

/-- Pairs collapse key by key: leaving some keys out before is leaving them out after. -/
theorem ofPairs_filter (p : String → Bool) (pairs : List (String × Json)) :
    ofPairs (pairs.filter (p ·.1)) = (ofPairs pairs).filter (p ·.1) := by
  induction pairs using List.reverseRecOn with
  | nil => rfl
  | append_singleton earlier pair ih =>
    obtain ⟨k, v⟩ := pair
    rw [ofPairs_concat, filter_set, ← ih, List.filter_append]
    by_cases kept : p k
    · simp [kept, ofPairs_concat]
    · simp [kept]

theorem nodup_keys_ofPairs (pairs : List (String × Json)) : (ofPairs pairs).keys.Nodup := by
  induction pairs using List.reverseRecOn with
  | nil => exact List.nodup_nil
  | append_singleton earlier pair ih =>
    obtain ⟨k, v⟩ := pair
    rw [ofPairs_concat, keys_set]
    by_cases there : k ∈ (ofPairs earlier).keys
    · rwa [if_pos there]
    · rw [if_neg there]
      exact ih.append (List.nodup_singleton k) (by simpa using there)

theorem mem_set {key : String} {value : Json} {members : Members} {member : String × Json}
    (there : member ∈ members.set key value) : member = (key, value) ∨ member ∈ members := by
  induction members with
  | nil => simpa [set] using there
  | cons first rest ih =>
    obtain ⟨k, v⟩ := first
    by_cases here : k = key
    · subst here
      rcases List.mem_cons.mp (by simpa [set] using there) with same | later
      · exact .inl same
      · exact .inr (.tail _ later)
    · rcases List.mem_cons.mp (by simpa [set, here] using there) with rfl | later
      · exact .inr (.head _)
      · rcases ih later with same | among
        · exact .inl same
        · exact .inr (.tail _ among)

theorem mem_of_mem_ofPairs {pairs : List (String × Json)} {member : String × Json}
    (there : member ∈ ofPairs pairs) : member ∈ pairs := by
  induction pairs using List.reverseRecOn with
  | nil => exact there
  | append_singleton earlier pair ih =>
    obtain ⟨k, v⟩ := pair
    rw [ofPairs_concat] at there
    rcases mem_set there with rfl | before
    · simp
    · exact List.mem_append_left _ (ih before)

theorem set_of_not_mem {key : String} {value : Json} {members : Members}
    (absent : key ∉ members.keys) : members.set key value = members ++ [(key, value)] := by
  induction members with
  | nil => rfl
  | cons first rest ih =>
    obtain ⟨k, v⟩ := first
    simp only [keys, List.map_cons, List.mem_cons, not_or] at absent
    simp [set, Ne.symm absent.1, ih absent.2]

/-- Members with each key once are what they collapse to. -/
theorem ofPairs_of_nodup {members : Members} (once : members.keys.Nodup) :
    ofPairs members = members := by
  induction members using List.reverseRecOn with
  | nil => rfl
  | append_singleton earlier member ih =>
    obtain ⟨k, v⟩ := member
    rw [keys, List.map_append] at once
    have apart := List.disjoint_of_nodup_append once
    rw [ofPairs_concat, ih once.of_append_left]
    exact set_of_not_mem fun there => apart there (by simp)

@[simp] theorem ofPairs_ofPairs (pairs : List (String × Json)) :
    ofPairs (ofPairs pairs) = ofPairs pairs :=
  ofPairs_of_nodup (nodup_keys_ofPairs pairs)

/-- Members with each key once are those that a look-up finds. -/
theorem mem_iff_get? {members : Members} (once : members.keys.Nodup) (key : String) (value : Json) :
    (key, value) ∈ members ↔ members.get? key = some value := by
  induction members with
  | nil => simp [get?]
  | cons member rest ih =>
    obtain ⟨k, v⟩ := member
    obtain ⟨unseen, once⟩ := List.nodup_cons.mp once
    by_cases here : k = key
    · subst here
      have absent (other : Json) : (k, other) ∉ rest := fun there =>
        unseen (List.mem_map.mpr ⟨_, there, rfl⟩)
      simp [get?, absent, eq_comm]
    · simp [get?, here, Ne.symm here, ih once]

theorem mem_of_get? {key : String} {value : Json} {members : Members}
    (there : members.get? key = some value) : (key, value) ∈ members := by
  induction members with
  | nil => cases there
  | cons member rest ih =>
    obtain ⟨k, v⟩ := member
    by_cases here : k = key
    · obtain rfl : v = value := by simpa [get?, here] using there
      rw [here]
      exact .head _
    · exact .tail _ (ih (by simpa [get?, here] using there))

theorem perm_of_get? {a b : Members} (once : a.keys.Nodup) (once' : b.keys.Nodup)
    (same : ∀ key, a.get? key = b.get? key) : a.Perm b := by
  refine (List.perm_ext_iff_of_nodup (List.Nodup.of_map _ once) (List.Nodup.of_map _ once')).mpr ?_
  rintro ⟨key, value⟩
  rw [mem_iff_get? once, mem_iff_get? once', same]

/-- Where each key stands once, a look-up does not depend on the order. -/
theorem get?_of_perm {a b : Members} (once : a.keys.Nodup) (perm : a.Perm b) (key : String) :
    a.get? key = b.get? key := by
  have once' : b.keys.Nodup := (perm.map Prod.fst).nodup_iff.mp once
  refine Option.ext fun value => ?_
  rw [← mem_iff_get? once, ← mem_iff_get? once', perm.mem_iff]

/-! ## Setting twice -/

theorem set_of_get? {key : String} {value : Json} {members : Members}
    (there : members.get? key = some value) : members.set key value = members := by
  induction members with
  | nil => cases there
  | cons member rest ih =>
    obtain ⟨k, v⟩ := member
    by_cases here : k = key
    · obtain rfl : v = value := by simpa [get?, here] using there
      simp [set, here]
    · simp [set, here, ih (by simpa [get?, here] using there)]

@[simp] theorem set_set (key : String) (first second : Json) (members : Members) :
    (members.set key first).set key second = members.set key second := by
  induction members with
  | nil => simp [set]
  | cons member rest ih =>
    obtain ⟨k, v⟩ := member
    by_cases here : k = key
    · simp [set, here]
    · simp [set, here, ih]

/-- Keys that are both new come in the order in which they are set; all else is in one place. -/
theorem set_comm {key other : String} (distinct : other ≠ key) (v w : Json) (members : Members) :
    ((members.set key v).set other w).Perm ((members.set other w).set key v) := by
  induction members with
  | nil => simpa [set, distinct, distinct.symm] using List.Perm.swap _ _ _
  | cons member rest ih =>
    obtain ⟨k, x⟩ := member
    by_cases here : k = key
    · subst here
      simp [set, distinct.symm]
    · by_cases there : k = other
      · subst there
        simp [set, here]
      · simpa [set, here, there] using ih

/-- The members of the one beside a key are those of the other, with their values and places. -/
def SameBeside (key : String) (a b : Members) : Prop :=
  ∀ (i : Nat) name value, name ≠ key → (a[i]? = some (name, value) ↔ b[i]? = some (name, value))

theorem sameBeside_set (key : String) (value : Json) (members : Members) :
    SameBeside key (members.set key value) members := by
  induction members with
  | nil =>
    rintro (_ | i) name v other
    · simp [set, Ne.symm other]
    · simp [set]
  | cons member rest ih =>
    obtain ⟨k, w⟩ := member
    by_cases here : k = key
    · subst here
      rintro (_ | i) name v other
      · simp [set, Ne.symm other]
      · simp [set]
    · rintro (_ | i) name v other
      · simp [set, here]
      · simpa [set, here] using ih i name v other

/-! ## Leaving a key out -/

theorem get?_erase {members : Members} (once : members.keys.Nodup) (key : String) :
    (members.erase key).get? key = none := by
  induction members with
  | nil => rfl
  | cons member rest ih =>
    obtain ⟨k, v⟩ := member
    obtain ⟨unseen, once⟩ := List.nodup_cons.mp once
    by_cases here : k = key
    · subst here
      rcases ends : rest.getLast? with _ | last
      · simp [erase, ends, get?]
      · rw [get?_eq_none_iff]
        intro there
        apply unseen
        -- the last member stands in the place of the one left out
        have split : rest = rest.dropLast ++ [last] := by
          obtain ⟨some, rfl⟩ := List.getLast?_eq_some_iff.mp ends
          simp
        rw [split]
        simpa [erase, ends, keys, or_comm] using there
    · simpa [erase, get?, here] using ih once

/-- Members in the same order that differ at most in what stands at a key. -/
inductive DifferAt (key : String) : Members → Members → Prop where
  | nil : DifferAt key [] []
  | cons {k : String} {v w : Json} {rest others : Members} (same : k ≠ key → v = w)
      (tail : DifferAt key rest others) : DifferAt key ((k, v) :: rest) ((k, w) :: others)

namespace DifferAt

variable {key : String} {a b : Members}

theorem eq_of_not_mem (differ : DifferAt key a b) (absent : key ∉ a.keys) : a = b := by
  induction differ with
  | nil => rfl
  | cons same _ ih =>
    simp only [keys, List.map_cons, List.mem_cons, not_or] at absent
    rw [same (Ne.symm absent.1), ih absent.2]

theorem filter (differ : DifferAt key a b) (p : String → Bool) :
    DifferAt key (a.filter (p ·.1)) (b.filter (p ·.1)) := by
  induction differ with
  | nil => exact .nil
  | @cons k v w _ _ same _ ih =>
    by_cases kept : p k
    · simpa [kept] using DifferAt.cons same ih
    · simpa [kept] using ih

theorem get? (differ : DifferAt key a b) {name : String} (other : name ≠ key) :
    a.get? name = b.get? name := by
  induction differ with
  | nil => rfl
  | @cons k v w _ _ same _ ih =>
    by_cases here : k = name
    · simp [Members.get?, here, same (here ▸ other)]
    · simp [Members.get?, here, ih]

theorem set (differ : DifferAt key a b) {name : String} {v w : Json} (same : name ≠ key → v = w) :
    DifferAt key (a.set name v) (b.set name w) := by
  induction differ with
  | nil => exact .cons same .nil
  | @cons k _ _ _ _ alike tail ih =>
    by_cases here : k = name
    · subst here
      simpa [Members.set] using DifferAt.cons same tail
    · simpa [Members.set, here] using DifferAt.cons alike ih

theorem ofPairs (differ : DifferAt key a b) : DifferAt key (ofPairs a) (ofPairs b) := by
  have onto {start start' : Members} (before : DifferAt key start start') :
      DifferAt key (a.foldl (fun members pair => members.set pair.1 pair.2) start)
        (b.foldl (fun members pair => members.set pair.1 pair.2) start') := by
    induction differ generalizing start start' with
    | nil => exact before
    | cons same _ ih => exact ih (before.set same)
  exact onto .nil

/-- Without what stands at the key there is nothing left to differ. -/
theorem erase (differ : DifferAt key a b) (once : a.keys.Nodup) : a.erase key = b.erase key := by
  induction differ with
  | nil => rfl
  | @cons k v w rest others same tail ih =>
    obtain ⟨unseen, once⟩ := List.nodup_cons.mp once
    by_cases here : k = key
    · subst here
      simp [Members.erase, tail.eq_of_not_mem unseen]
    · simp [Members.erase, here, same here, ih once]

end DifferAt

theorem nodup_keys_front {front given : Members} (distinct : front.keys.Nodup)
    (once : given.keys.Nodup) : (keys (front ++ given.without front.keys)).Nodup := by
  rw [keys, List.map_append]
  refine distinct.append (nodup_keys_without once _) ?_
  intro key infront behind
  exact ((mem_keys_without _ _ _).mp behind).1 infront

/-- What is written in front changes nothing but its own keys. -/
theorem without_front (front given : Members) :
    without front.keys (front ++ given.without front.keys) = given.without front.keys := by
  have named (key : String) (value : Json) (there : (key, value) ∈ front) : key ∈ front.keys :=
    List.mem_map.mpr ⟨(key, value), there, rfl⟩
  simpa [without] using named

end Members
end JobGate
