import JobGate.Proofs.PatchSteps

/-!
Patches as runs of their operations. A patch leads a job along the run of its operations, up to the
first that has no step (`applyOperations_ok_iff`, `applyOperations_error_iff`), so that a patch
goes on where an earlier one ended, and nothing behind an operation that does not apply, or besides
one that is malformed, is of any matter (`patch_stepwise`).
-/
namespace JobGate

namespace Operation

/-- A document becomes another by operations one after the other. -/
inductive Run : List Operation → Json → Json → Prop where
  | nil (doc : Json) : Run [] doc doc
  | cons {op : Operation} {rest : List Operation} {doc middle after : Json}
      (step : op.Step doc middle) (run : Run rest middle after) : Run (op :: rest) doc after

/-- An operation that can be decoded. -/
def WellFormed (op : Json) : Prop := ∃ operation, ofJson op = .ok operation

variable {index : Nat} {operations : List Operation} {doc after : Json}

theorem applyOperations_ok_iff :
    applyOperations index operations doc = .ok after ↔ Run operations doc after := by
  induction operations generalizing index doc with
  | nil =>
    constructor
    · intro run
      obtain rfl : doc = after := Except.ok.inj run
      exact .nil doc
    · rintro ⟨⟩
      rfl
  | cons op rest ih =>
    rcases applied : op.apply doc with fault | middle
    · constructor
      · intro run
        simp [applyOperations, applied] at run
      · intro run
        cases run with
        | cons step _ =>
          rw [apply_ok_iff.mpr step] at applied
          cases applied
    · rw [applyOperations, applied]
      constructor
      · intro run
        exact .cons (apply_ok_iff.mp applied) (ih.mp run)
      · intro run
        cases run with
        | cons step run =>
          obtain rfl := Except.ok.inj (applied.symm.trans (apply_ok_iff.mpr step))
          exact ih.mpr run

theorem applyOperations_append (index : Nat) (a b : List Operation) (doc : Json) :
    applyOperations index (a ++ b) doc =
      (applyOperations index a doc >>= applyOperations (index + a.length) b) := by
  induction a generalizing index doc with
  | nil => rfl
  | cons op rest ih =>
    rcases applied : op.apply doc with fault | middle
    · simp [applyOperations, applied, bind, Except.bind]
    · have counted : index + 1 + rest.length = index + (op :: rest).length := by
        rw [List.length_cons]
        omega
      rw [List.cons_append, applyOperations, applied, applyOperations, applied, ← counted]
      exact ih (index + 1) middle

/-- A run that is counted from further on ends alike, with its fault as much further on. -/
theorem applyOperations_shifted (earlier index : Nat) (operations : List Operation) (doc : Json) :
    (∃ after, applyOperations (earlier + index) operations doc = .ok after ∧
      applyOperations index operations doc = .ok after) ∨
    ∃ stop path fault,
      applyOperations (earlier + index) operations doc =
        .error (.apply (earlier + stop) path fault) ∧
      applyOperations index operations doc = .error (.apply stop path fault) := by
  induction operations generalizing index doc with
  | nil => exact .inl ⟨doc, rfl, rfl⟩
  | cons op rest ih =>
    rcases applied : op.apply doc with fault | middle
    · exact .inr ⟨index, op.path, fault, by simp [applyOperations, applied],
        by simp [applyOperations, applied]⟩
    · simpa [applyOperations, applied, Nat.add_assoc] using ih (index + 1) middle

theorem applyOperations_stops {before after : List Operation} {op : Operation}
    {doc middle : Json} {fault : PatchFault} (run : Run before doc middle)
    (fails : op.apply middle = .error fault) (index : Nat) :
    applyOperations index (before ++ op :: after) doc =
      .error (.apply (index + before.length) op.path fault) := by
  rw [applyOperations_append, applyOperations_ok_iff.mpr run]
  simp [applyOperations, fails, bind, Except.bind]

/-- A list of operations fails at the first of them that does not apply. -/
theorem applyOperations_error_iff {e : PatchError} :
    applyOperations index operations doc = .error e ↔
      ∃ before op behind middle fault, operations = before ++ op :: behind ∧
        Run before doc middle ∧ op.apply middle = .error fault ∧
        e = .apply (index + before.length) op.path fault := by
  constructor
  · intro run
    induction operations generalizing index doc with
    | nil => cases run
    | cons op rest ih =>
      rcases applied : op.apply doc with fault | middle
      · rw [applyOperations, applied] at run
        exact ⟨[], op, rest, doc, fault, rfl, .nil doc, applied, (Except.error.inj run).symm⟩
      · rw [applyOperations, applied] at run
        obtain ⟨before, bad, behind, last, fault, rfl, steps, fails, rfl⟩ := ih run
        refine ⟨op :: before, bad, behind, last, fault, rfl,
          .cons (apply_ok_iff.mp applied) steps, fails, ?_⟩
        rw [List.length_cons, Nat.add_assoc, Nat.add_comm 1]
  · rintro ⟨before, op, behind, middle, fault, rfl, run, fails, rfl⟩
    exact applyOperations_stops run fails index

theorem decodeOperations_ok_iff {ops : List Json} :
    decodeOperations ops = .ok operations ↔ ops.mapM ofJson = .ok operations := by
  rcases read : ops.mapM ofJson with e | found
  · simp [decodeOperations, read]
  · simp [decodeOperations, read]

/-- Operations that cannot be decoded fail as such. -/
theorem decodeOperations_error {ops : List Json} {e : PatchError}
    (read : decodeOperations ops = .error e) : ∃ fault, e = .decode fault := by
  rcases found : ops.mapM ofJson with fault | operations
  · rw [decodeOperations, found] at read
    exact ⟨fault, (Except.error.inj read).symm⟩
  · rw [decodeOperations, found] at read
    cases read

theorem decodeOperations_succeeds_iff {ops : List Json} :
    (∃ operations, decodeOperations ops = .ok operations) ↔ ∀ op ∈ ops, WellFormed op := by
  simp only [decodeOperations_ok_iff]
  exact mapM_succeeds_iff

theorem decodeOperations_append {a b : List Json} {first second : List Operation}
    (read : decodeOperations a = .ok first) (reread : decodeOperations b = .ok second) :
    decodeOperations (a ++ b) = .ok (first ++ second) := by
  rw [decodeOperations_ok_iff] at read reread ⊢
  simp [List.mapM_append, read, reread, bind, Except.bind, pure, Except.pure]

end Operation

namespace Job

open Operation

theorem ofJson_ok_iff {doc : Json} {job : Job} : ofJson doc = .ok job ↔ doc = job.toJson := by
  constructor
  · intro read
    cases doc with
    | object members =>
      obtain rfl : ⟨members⟩ = job := Except.ok.inj read
      rfl
    | _ => cases read
  · rintro rfl
    rfl

/-- What the end of a run is as a job. -/
def ofEnd (doc : Json) : Except PatchError (Job × Bool) :=
  match ofJson doc with
  | .ok job => .ok (job, true)
  | .error e => .error (.shape e)

variable {ops a b : List Json} {operations : List Operation} {job patched : Job}

theorem patch_of_decoded (present : ops ≠ []) (read : decodeOperations ops = .ok operations)
    (job : Job) : job.patch ops = (applyOperations 0 operations job.toJson >>= ofEnd) := by
  have some : ops.isEmpty = false := by simpa using present
  rw [patch, some, read]
  rfl

theorem patch_ok_iff (present : ops ≠ []) {mutated : Bool} :
    job.patch ops = .ok (patched, mutated) ↔
      mutated = true ∧ ∃ operations, decodeOperations ops = .ok operations ∧
        Run operations job.toJson patched.toJson := by
  constructor
  · intro run
    rcases read : decodeOperations ops with e | operations
    · have some : ops.isEmpty = false := by simpa using present
      rw [patch, some, read] at run
      cases run
    · rw [patch_of_decoded present read] at run
      obtain ⟨doc, applied, ended⟩ := bind_ok run
      rcases shaped : ofJson doc with e | found
      · simp [ofEnd, shaped] at ended
      · obtain ⟨rfl, rfl⟩ : found = patched ∧ true = mutated := by
          simpa [ofEnd, shaped] using ended
        obtain rfl := ofJson_ok_iff.mp shaped
        exact ⟨rfl, operations, rfl, applyOperations_ok_iff.mp applied⟩
  · rintro ⟨rfl, operations, read, run⟩
    rw [patch_of_decoded present read, applyOperations_ok_iff.mpr run]
    rfl

/-- The run of a patch that succeeds, be it the empty one. -/
theorem run_of_patch {mutated : Bool} (run : job.patch ops = .ok (patched, mutated)) :
    ∃ operations, decodeOperations ops = .ok operations ∧
      Run operations job.toJson patched.toJson := by
  by_cases none : ops = []
  · subst none
    obtain ⟨rfl, -⟩ := Prod.mk.inj (Except.ok.inj run)
    exact ⟨[], rfl, .nil _⟩
  · exact ((patch_ok_iff none).mp run).2

theorem patch_decode_iff :
    (∃ e, job.patch ops = .error (.decode e)) ↔ ∃ op ∈ ops, ¬ WellFormed op := by
  constructor
  · rintro ⟨e, failed⟩
    by_contra all
    have formed : ∀ op ∈ ops, WellFormed op := by simpa using all
    obtain ⟨operations, read⟩ := decodeOperations_succeeds_iff.mpr formed
    have present : ops ≠ [] := by
      rintro rfl
      cases failed
    rw [patch_of_decoded present read] at failed
    rcases applied : applyOperations 0 operations job.toJson with fault | doc
    · obtain ⟨_, _, _, _, _, _, _, _, rfl⟩ := applyOperations_error_iff.mp applied
      rw [applied] at failed
      cases failed
    · rcases shaped : ofJson doc with _ | _
      · simp [applied, ofEnd, shaped, bind, Except.bind] at failed
      · simp [applied, ofEnd, shaped, bind, Except.bind] at failed
  · rintro ⟨op, among, malformed⟩
    have present : ops.isEmpty = false := by
      rw [List.isEmpty_eq_false_iff]
      exact List.ne_nil_of_mem among
    rcases read : decodeOperations ops with e | operations
    · obtain ⟨fault, rfl⟩ := decodeOperations_error read
      refine ⟨fault, ?_⟩
      rw [patch, present, read]
      rfl
    · exact absurd (decodeOperations_succeeds_iff.mp ⟨operations, read⟩ op among) malformed

/-- A patch and its continuation end alike: in one job, at one operation, of which the continuation
    counts as many before it less, or in a document that is no job. -/
inductive Continues (earlier : Nat) :
    Except PatchError (Job × Bool) → Except PatchError (Job × Bool) → Prop where
  | done (job : Job) : Continues earlier (.ok (job, true)) (.ok (job, true))
  | stopped (index : Nat) (path : Pointer) (fault : PatchFault) :
      Continues earlier (.error (.apply (earlier + index) path fault))
        (.error (.apply index path fault))
  | shapeless (e : DecodeError) : Continues earlier (.error (.shape e)) (.error (.shape e))

theorem patch_continues (begun : a ≠ []) (present : b ≠ []) (formed : ∀ op ∈ b, WellFormed op)
    (run : job.patch a = .ok (patched, true)) :
    Continues a.length (job.patch (a ++ b)) (patched.patch b) := by
  obtain ⟨-, first, read, steps⟩ := (patch_ok_iff begun).mp run
  obtain ⟨second, reread⟩ := decodeOperations_succeeds_iff.mpr formed
  have both := decodeOperations_append read reread
  have counted : first.length = a.length := mapM_length (decodeOperations_ok_iff.mp read)
  rw [patch_of_decoded (by simp [begun]) both, patch_of_decoded present reread,
    applyOperations_append, applyOperations_ok_iff.mpr steps, counted]
  rcases applyOperations_shifted a.length 0 second patched.toJson with
    ⟨doc, later, here⟩ | ⟨stop, path, fault, later, here⟩
  · rw [Nat.add_zero] at later
    rcases shaped : ofJson doc with e | job
    · simpa [later, here, ofEnd, shaped, bind, Except.bind, Nat.add_comm 0] using
        Continues.shapeless e
    · simpa [later, here, ofEnd, shaped, bind, Except.bind, Nat.add_comm 0] using
        Continues.done job
  · rw [Nat.add_zero] at later
    simpa [later, here, bind, Except.bind, Nat.add_comm 0] using Continues.stopped stop path fault

theorem patch_stops {before behind : List Operation} {op : Operation} {middle : Json}
    (read : decodeOperations ops = .ok (before ++ op :: behind))
    (run : Run before job.toJson middle) (stuck : ∀ after, ¬ op.Step middle after) :
    ∃ fault, job.patch ops = .error (.apply before.length op.path fault) := by
  have present : ops ≠ [] := by
    rintro rfl
    have counted := mapM_length (decodeOperations_ok_iff.mp read)
    simp at counted
  rcases applied : op.apply middle with fault | after
  · refine ⟨fault, ?_⟩
    rw [patch_of_decoded present read, applyOperations_stops run applied, Nat.zero_add]
    rfl
  · exact absurd (apply_ok_iff.mp applied) (stuck after)

/-- A patch goes on as another would from where it ended; it fails at the first operation that has
    no step, whatever comes behind; and it is not begun if an operation cannot be decoded. -/
theorem patch_stepwise (job : Job) :
    (∀ (a b : List Json) (patched : Job), a ≠ [] → b ≠ [] → (∀ op ∈ a ++ b, WellFormed op) →
      job.patch a = .ok (patched, true) →
        Continues a.length (job.patch (a ++ b)) (patched.patch b)) ∧
    (∀ (ops : List Json) (before behind : List Operation) (op : Operation) (middle : Json),
      decodeOperations ops = .ok (before ++ op :: behind) → Run before job.toJson middle →
      (∀ after, ¬ op.Step middle after) →
        ∃ fault, job.patch ops = .error (.apply before.length op.path fault)) ∧
    ∀ ops : List Json, (∃ e, job.patch ops = .error (.decode e)) ↔ ∃ op ∈ ops, ¬ WellFormed op := by
  refine ⟨?_, ?_, ?_⟩
  · intro a b patched begun present formed run
    have later : ∀ op ∈ b, WellFormed op := fun op among =>
      formed op (List.mem_append_right a among)
    exact patch_continues begun present later run
  · intro ops before behind op middle read run stuck
    exact patch_stops read run stuck
  · intro ops
    exact patch_decode_iff

def described : List Json :=
  [.object [("op", .string "add"), ("path", .string "/Meta"), ("value", .object [])]]

/-- Renames the identifier, and then looks for it once more. -/
def renamedTwice : List Json :=
  [.object [("op", .string "move"), ("from", .string "/ID"), ("path", .string "/Meta/Name")],
    .object [("op", .string "remove"), ("path", .string "/ID")]]

theorem second_renaming_stops :
    (Job.mk [("ID", .string "web")]).patch described =
        .ok (⟨[("ID", .string "web"), ("Meta", .object [])]⟩, true) ∧
      Continues 1 ((Job.mk [("ID", .string "web")]).patch (described ++ renamedTwice))
        ((Job.mk [("ID", .string "web"), ("Meta", .object [])]).patch renamedTwice) ∧
      (∃ fault, (Job.mk [("ID", .string "web")]).patch (described ++ renamedTwice) =
        .error (.apply 2 ["ID"] fault)) ∧
      ∃ e, (Job.mk [("ID", .string "web")]).patch (renamedTwice ++ [.null]) =
        .error (.decode e) := by
  obtain ⟨continues, stops, decodes⟩ := patch_stepwise ⟨[("ID", .string "web")]⟩
  have first : (Job.mk [("ID", .string "web")]).patch described =
      .ok (⟨[("ID", .string "web"), ("Meta", .object [])]⟩, true) := by decide +kernel
  have formed : ∀ op ∈ described ++ renamedTwice, WellFormed op :=
    decodeOperations_succeeds_iff.mp ⟨[.add ["Meta"] (.object []), .move ["ID"] ["Meta", "Name"],
      .remove ["ID"]], by decide +kernel⟩
  have read : decodeOperations (described ++ renamedTwice) =
      .ok ([.add ["Meta"] (.object []), .move ["ID"] ["Meta", "Name"]] ++ [.remove ["ID"]]) := by
    decide +kernel
  have run : Run [.add ["Meta"] (.object []), .move ["ID"] ["Meta", "Name"]]
      (Job.mk [("ID", .string "web")]).toJson
      (.object [("Meta", .object [("Name", .string "web")])]) := by
    have applied : applyOperations 0 [.add ["Meta"] (.object []), .move ["ID"] ["Meta", "Name"]]
        (Job.mk [("ID", .string "web")]).toJson =
        .ok (.object [("Meta", .object [("Name", .string "web")])]) := by decide +kernel
    exact applyOperations_ok_iff.mp applied
  have stuck : ∀ after, ¬ Step (.remove ["ID"])
      (.object [("Meta", .object [("Name", .string "web")])]) after := by
    intro after step
    have missing : (Operation.remove ["ID"]).apply
        (.object [("Meta", .object [("Name", .string "web")])]) = .error .pathInvalid := by
      decide +kernel
    rw [apply_ok_iff.mpr step] at missing
    cases missing
  have malformed : ¬ WellFormed .null := by
    rintro ⟨_, read⟩
    cases read
  exact ⟨first, continues described renamedTwice _ (by decide) (by decide) formed first,
    stops _ _ _ _ _ read run stuck, (decodes _).mpr ⟨.null, by simp, malformed⟩⟩

end Job
end JobGate
