import JobGate.Proofs.DocumentEquality

/-!
Texts of the metadata, set and asked for again. `Job.metaMembers` is the view through which both
act: asking looks a key up in it (`metadata?_eq`), and setting sets the key in it
(`metaMembers_setMetadata`), whatever stood in the place of the metadata before. The laws of a lens
follow (`metadata_set_and_asked`), with nothing else in the job touched.
-/
namespace JobGate

namespace Members

/-- Members that differ at a key only, and there up to the order of members. -/
theorem alike_set {key : String} {v w : Json} (alike : Json.Alike v w) (members : Members) :
    Json.Alike (.object (members.set key v)) (.object (members.set key w)) := by
  refine Json.alike_object_iff.mpr ⟨_, _, rfl, .refl _, ?_⟩
  induction members with
  | nil => exact .cons ⟨rfl, alike⟩ .nil
  | cons member rest ih =>
    obtain ⟨k, x⟩ := member
    by_cases here : k = key
    · simp only [set, if_pos here]
      exact .cons ⟨rfl, alike⟩ (List.forall₂_same.mpr fun other _ => ⟨rfl, .refl other.2⟩)
    · simp only [set, if_neg here]
      exact .cons ⟨rfl, .refl x⟩ ih

theorem alike_of_perm {a b : Members} (order : a.Perm b) :
    Json.Alike (.object a) (.object b) :=
  Json.alike_object_iff.mpr ⟨b, b, rfl, order, List.forall₂_same.mpr fun member _ =>
    ⟨rfl, .refl member.2⟩⟩

end Members

namespace Job

variable (job : Job) (key : String)

theorem metadata?_eq : job.metadata? key = (job.metaMembers.get? key).bind Json.string? := by
  rcases there : job.members.get? "Meta" with _ | v
  · simp [metadata?, metaMembers, there, Members.get?]
  · cases v <;> simp [metadata?, metaMembers, there, Json.field?, Json.object?, Members.get?]

theorem get?_setMetadata (name value : String) :
    (job.setMetadata key value).members.get? name =
      if name = "Meta" then some (.object (job.metaMembers.set key (.string value)))
      else job.members.get? name :=
  Members.get?_set _ _ _ _

@[simp] theorem metaMembers_setMetadata (value : String) :
    (job.setMetadata key value).metaMembers = job.metaMembers.set key (.string value) := by
  rw [metaMembers, get?_setMetadata]
  rfl

theorem metadata?_setMetadata (other value : String) :
    (job.setMetadata key value).metadata? other =
      if other = key then some value else job.metadata? other := by
  rw [metadata?_eq, metaMembers_setMetadata, Members.get?_set, metadata?_eq]
  by_cases asked : other = key
  · simp [asked, Json.string?]
  · simp [asked]

/-- Metadata that holds a text is an object, and the text stands in it. -/
theorem get?_of_metadata? {value : String} (there : job.metadata? key = some value) :
    job.members.get? "Meta" = some (.object job.metaMembers) ∧
      job.metaMembers.get? key = some (.string value) := by
  rw [metadata?_eq] at there
  obtain ⟨v, found, text⟩ := Option.bind_eq_some_iff.mp there
  have string : v = .string value := by
    cases v with
    | string s => rw [Option.some.inj text]
    | _ => cases text
  subst string
  refine ⟨?_, found⟩
  rcases held : job.members.get? "Meta" with _ | w
  · simp [metaMembers, held, Members.get?] at found
  · cases w with
    | object members => simp [metaMembers, held, Json.object?]
    | _ => simp [metaMembers, held, Json.object?, Members.get?] at found

/-- A text that is there already is set in vain. -/
theorem setMetadata_of_metadata? {value : String} (there : job.metadata? key = some value) :
    job.setMetadata key value = job := by
  obtain ⟨held, found⟩ := job.get?_of_metadata? key there
  rw [setMetadata, Members.set_of_get? found, Members.set_of_get? held]

/-- Setting two texts sets them in the metadata, and this once in the job. -/
theorem setMetadata_setMetadata (other first second : String) :
    (job.setMetadata key first).setMetadata other second =
      ⟨job.members.set "Meta"
        (.object ((job.metaMembers.set key (.string first)).set other (.string second)))⟩ := by
  rw [setMetadata, metaMembers_setMetadata]
  simp [setMetadata]

/-- A text that was set is what is asked for then, and no other text of the metadata is another.
    Setting touches no other member of the job, nor of the metadata if they are an object. The text
    that stands there already can be set without a trace, the text that is set last counts, and
    texts of two keys can be set in either order, up to the order of members. -/
theorem metadata_set_and_asked (v w : String) :
    (job.setMetadata key v).metadata? key = some v ∧
      (∀ other, other ≠ key → (job.setMetadata key v).metadata? other = job.metadata? other) ∧
      Members.SameBeside "Meta" (job.setMetadata key v).members job.members ∧
      (job.setMetadata key v).id? = job.id? ∧ (job.setMetadata key v).tasks = job.tasks ∧
      (∀ held, job.members.get? "Meta" = some (.object held) → ∃ holds,
        (job.setMetadata key v).members.get? "Meta" = some (.object holds) ∧
          Members.SameBeside key holds held) ∧
      (job.metadata? key = some v → job.setMetadata key v = job) ∧
      (job.setMetadata key v).setMetadata key w = job.setMetadata key w ∧
      ∀ other, other ≠ key → Json.Alike ((job.setMetadata key v).setMetadata other w).toJson
        ((job.setMetadata other w).setMetadata key v).toJson := by
  refine ⟨?_, ?_, ?_, ?_, ?_, ?_, job.setMetadata_of_metadata? key, ?_, ?_⟩
  · rw [metadata?_setMetadata, if_pos rfl]
  · intro other distinct
    rw [metadata?_setMetadata, if_neg distinct]
  · exact Members.sameBeside_set _ _ _
  · rw [id?, id?, get?_setMetadata, if_neg (by decide)]
  · rw [tasks, tasks, get?_setMetadata, if_neg (by decide)]
  · intro held there
    refine ⟨_, by rw [get?_setMetadata, if_pos rfl], ?_⟩
    have members : job.metaMembers = held := by simp [metaMembers, there, Json.object?]
    rw [members]
    exact Members.sameBeside_set _ _ _
  · rw [setMetadata_setMetadata, Members.set_set, setMetadata]
  · intro other distinct
    rw [setMetadata_setMetadata, setMetadata_setMetadata]
    exact Members.alike_set (Members.alike_of_perm (Members.set_comm distinct _ _ _)) _

/-- A job whose metadata hold a text, and a number where a text is wanted. -/
def rankedJob : Job :=
  ⟨[("ID", .string "web"), ("Meta", .object [("rank", Json.ofInt 7), ("team", .string "infra")]),
    ("Priority", Json.ofInt 50)]⟩

/-- The text of the team is set in vain; the number becomes a text in its place, before or after. -/
theorem ranked_job_set_and_asked :
    rankedJob.metadata? "team" = some "infra" ∧ rankedJob.setMetadata "team" "infra" = rankedJob ∧
      rankedJob.metadata? "rank" = none ∧
      (rankedJob.setMetadata "team" "infra").metadata? "rank" = none ∧
      Json.Alike ((rankedJob.setMetadata "team" "infra").setMetadata "rank" "7").toJson
        ((rankedJob.setMetadata "rank" "7").setMetadata "team" "infra").toJson := by
  obtain ⟨-, others, -, -, -, -, vain, -, either⟩ :=
    rankedJob.metadata_set_and_asked "team" "infra" "7"
  exact ⟨by decide, vain (by decide), by decide, others "rank" (by decide), either "rank" (by decide)⟩

end Job
end JobGate
