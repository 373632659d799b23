import Mathlib.Data.List.Forall2

/-!
Steps that may fail, run one after another: a run that succeeds is taken apart into the steps that
did (`bind_ok`, `map_ok`, `unless_ok`). A run over a list succeeds with one result of each item, or
fails with the first item that does (`mapM_ok_iff`, `mapM_error_iff`). Results can be compared where
values and errors can. Two runs end alike when they fail with one error or succeed with related
values (`EndsAlike`).
-/
namespace JobGate

variable {ε α β : Type}

instance decEqResult [DecidableEq ε] [DecidableEq α] : DecidableEq (Except ε α)
  | .ok a, .ok b => decidable_of_iff (a = b) (by simp)
  | .error e, .error f => decidable_of_iff (e = f) (by simp)
  | .ok _, .error _ => isFalse nofun
  | .error _, .ok _ => isFalse nofun

theorem bind_ok {x : Except ε α} {f : α → Except ε β} {b : β} (run : x >>= f = .ok b) :
    ∃ a, x = .ok a ∧ f a = .ok b := by
  cases x with
  | error e => cases run
  | ok a => exact ⟨a, rfl, run⟩

theorem map_ok {x : Except ε α} {f : α → β} {b : β} (run : x.map f = .ok b) :
    ∃ a, x = .ok a ∧ f a = b := by
  cases x with
  | error e => cases run
  | ok a => exact ⟨a, rfl, Except.ok.inj run⟩

theorem map_error {x : Except ε α} {f : α → β} {e : ε} (run : x.map f = .error e) :
    x = .error e := by
  cases x with
  | error other => rw [Except.error.inj run]
  | ok a => cases run

theorem forall₂_right {R : α → β → Prop} {xs : List α} {ys : List β} {a : α}
    (each : List.Forall₂ R xs ys) (there : a ∈ xs) : ∃ b ∈ ys, R a b := by
  induction each with
  | nil => cases there
  | cons here _ ih =>
    rcases List.mem_cons.mp there with rfl | later
    · exact ⟨_, .head _, here⟩
    · obtain ⟨b, among, both⟩ := ih later
      exact ⟨b, .tail _ among, both⟩

section
variable {f : α → Except ε β} {xs : List α} {ys : List β}

/-- A run over a list succeeds with what its steps give, one after another. -/
theorem mapM_ok_iff : xs.mapM f = .ok ys ↔ List.Forall₂ (fun x y => f x = .ok y) xs ys := by
  constructor
  · intro run
    induction xs generalizing ys with
    | nil =>
      obtain rfl : [] = ys := Except.ok.inj run
      exact .nil
    | cons x rest ih =>
      rw [List.mapM_cons] at run
      obtain ⟨y, first, run⟩ := bind_ok run
      obtain ⟨others, later, run⟩ := bind_ok run
      obtain rfl : y :: others = ys := Except.ok.inj run
      exact .cons first (ih later)
  · intro each
    induction each with
    | nil => rfl
    | cons first _ ih => simp [List.mapM_cons, first, ih, bind, Except.bind, pure, Except.pure]

theorem mapM_ok (run : xs.mapM f = .ok ys) : ∀ y ∈ ys, ∃ x ∈ xs, f x = .ok y := by
  intro y member
  have each : List.Forall₂ (fun y x => f x = .ok y) ys xs := (mapM_ok_iff.mp run).flip
  exact forall₂_right each member

theorem mapM_length (run : xs.mapM f = .ok ys) : ys.length = xs.length :=
  (mapM_ok_iff.mp run).length_eq.symm

theorem mapM_succeeds_iff :
    (∃ ys, xs.mapM f = .ok ys) ↔ ∀ x ∈ xs, ∃ y, f x = .ok y := by
  simp only [mapM_ok_iff]
  constructor
  · rintro ⟨ys, each⟩ x member
    obtain ⟨y, _, given⟩ := forall₂_right each member
    exact ⟨y, given⟩
  · intro succeed
    choose y given using succeed
    refine ⟨xs.attach.map fun x => y x.1 x.2, List.forall₂_iff_get.mpr ⟨by simp, ?_⟩⟩
    intro i inside _
    simpa using given _ (List.get_mem xs ⟨i, inside⟩)

/-- A run that fails does so at the first item that does. -/
theorem mapM_error_iff {e : ε} :
    xs.mapM f = .error e ↔ ∃ earlier x later, xs = earlier ++ x :: later ∧
      (∀ a ∈ earlier, ∃ b, f a = .ok b) ∧ f x = .error e := by
  constructor
  · intro run
    induction xs with
    | nil => cases run
    | cons x rest ih =>
      rw [List.mapM_cons] at run
      rcases first : f x with e' | y
      · rw [first] at run
        obtain rfl : e' = e := Except.error.inj run
        exact ⟨[], x, rest, rfl, nofun, first⟩
      · rcases later : rest.mapM f with e' | ys
        · rw [first, later] at run
          obtain rfl : e' = e := Except.error.inj run
          obtain ⟨earlier, z, others, rfl, succeed, fault⟩ := ih later
          exact ⟨x :: earlier, z, others, rfl, List.forall_mem_cons.mpr ⟨⟨y, first⟩, succeed⟩, fault⟩
        · rw [first, later] at run
          cases run
  · rintro ⟨earlier, x, later, rfl, succeed, fault⟩
    obtain ⟨ys, passed⟩ := mapM_succeeds_iff.mpr succeed
    simp [List.mapM_append, passed, fault, bind, Except.bind]

/-- What the results of a run have of the items, they have in the order of the items. -/
theorem mapM_map {γ : Type} {g : β → γ} {h : α → γ} (carried : ∀ x y, f x = .ok y → g y = h x)
    (run : xs.mapM f = .ok ys) : ys.map g = xs.map h := by
  induction mapM_ok_iff.mp run with
  | nil => rfl
  | cons first later ih =>
    rw [List.map_cons, List.map_cons, carried _ _ first, ih (mapM_ok_iff.mpr later)]

end

/-- A step that was not given up at a test failed the test. -/
theorem unless_ok {c : Prop} [Decidable c] {e : ε} {next : PUnit → Except ε β} {b : β}
    (run : (if c then (throw e >>= next) else next ⟨⟩) = .ok b) : ¬ c ∧ next ⟨⟩ = .ok b := by
  by_cases given : c
  · rw [if_pos given] at run
    cases run
  · rw [if_neg given] at run
    exact ⟨given, run⟩

/-- Two runs fail with the same error, or both succeed, and their values are related. -/
inductive EndsAlike (related : α → β → Prop) : Except ε α → Except ε β → Prop where
  | failed (e : ε) : EndsAlike related (.error e) (.error e)
  | done {a : α} {b : β} (both : related a b) : EndsAlike related (.ok a) (.ok b)

namespace EndsAlike

variable {γ δ : Type} {related : α → β → Prop} {x : Except ε α} {y : Except ε β}

theorem map {next : γ → δ → Prop} {f : α → γ} {g : β → δ} (alike : EndsAlike related x y)
    (step : ∀ a b, related a b → next (f a) (g b)) : EndsAlike next (x.map f) (y.map g) := by
  cases alike with
  | failed e => exact .failed e
  | done both => exact .done (step _ _ both)

theorem mono {weaker : α → β → Prop} (alike : EndsAlike related x y)
    (step : ∀ a b, related a b → weaker a b) : EndsAlike weaker x y := by
  cases alike with
  | failed e => exact .failed e
  | done both => exact .done (step _ _ both)

theorem cases (alike : EndsAlike related x y) :
    (∃ e, x = .error e ∧ y = .error e) ∨ ∃ a b, x = .ok a ∧ y = .ok b ∧ related a b := by
  cases alike with
  | failed e => exact .inl ⟨e, rfl, rfl⟩
  | done both => exact .inr ⟨_, _, rfl, rfl, both⟩

end EndsAlike

end JobGate
