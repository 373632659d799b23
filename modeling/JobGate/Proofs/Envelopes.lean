import JobGate.Envelope
import JobGate.Proofs.Records

/-!
What the bodies around jobs say. A text that decodes as a submission has one job, and the members
that stay with it are the others (`decodeBytes_submission`). A text that decodes as a reply is an
object with the texts that the reply declares, each of which may be absent, and all its other
members stay with the reply (`decodeBytes_jobReply`, `decodeBytes_validationReply`).
-/
namespace JobGate

open RecordView (adds_of_once adds_of_rest)

theorem Job.faithful_decoder : Decoder.Faithful Job.decoder Job.toJson := by
  intro room d job read
  obtain ⟨members, decoded, rfl⟩ := map_ok read
  rw [Decoder.members_eq_pairs] at decoded
  obtain ⟨pairs, paired, rfl⟩ := map_ok decoded
  exact Draft.toJson_of_pairs paired

namespace Submission

/-- The job is declared, all else is not. -/
def view : RecordView Slots where
  declared := ["Job"]
  held slots _ := slots.job.map Job.toJson
  rest slots := slots.rest

theorem steps_read : view.Steps Slots.read := by
  intro room slots after key d run
  by_cases isJob : key = "Job"
  · subst isJob
    rw [Slots.read, if_pos rfl] at run
    obtain ⟨filled, once, run⟩ := bind_ok run
    obtain rfl : { slots with job := filled } = after := Except.ok.inj run
    exact adds_of_once Job.faithful_decoder once (by simp [view]) (by simp [view]) (by simp [view])
      rfl
  · rw [Slots.read, if_neg isJob] at run
    obtain ⟨value, decoded, run⟩ := bind_ok run
    obtain rfl : { slots with rest := slots.rest ++ [(key, value)] } = after := Except.ok.inj run
    exact adds_of_rest decoded (by simpa [view] using isJob) rfl rfl

/-- A text that decodes as a submission is an object with one job; the other members stay with the
    job as they collapse. -/
theorem decodeBytes_submission {plain : Bytes} {submission : Submission}
    (decoded : decodeBytes Submission.decoder plain = .ok submission) :
    ∃ pairs, decodeBytes Decoder.pairs plain = .ok pairs ∧
      pairs.filter (·.1 = "Job") = [("Job", submission.job.toJson)] ∧
      Members.Collapse (pairs.filter (·.1 ≠ "Job")) submission.rest := by
  have fresh : view.Keeps {} [] := ⟨by simp [view], rfl⟩
  obtain ⟨pairs, slots, paired, keeps, closed⟩ := view.decodeBytes_record steps_read fresh decoded
  obtain ⟨job, there, closed⟩ := bind_ok closed
  obtain rfl : ⟨job, Members.ofPairs slots.rest⟩ = submission := Except.ok.inj closed
  refine ⟨pairs, paired, ?_, ?_⟩
  · rcases held : slots.job with _ | found
    · rw [held] at there
      cases there
    · rw [held] at there
      obtain rfl : found = job := Except.ok.inj there
      simpa [view, held] using keeps.held "Job" (by simp [view])
  · have rest : slots.rest = pairs.filter (·.1 ≠ "Job") := by simpa [view] using keeps.rest
    rw [← rest]
    exact Members.collapse_ofPairs slots.rest

end Submission

namespace JobReply

/-- The warnings are declared, all else is not. -/
def view : RecordView Slots where
  declared := ["Warnings"]
  held slots _ := slots.warnings.map .string
  rest slots := slots.rest

theorem steps_read : view.Steps Slots.read := by
  intro room slots after key d run
  by_cases warns : key = "Warnings"
  · subst warns
    rw [Slots.read, if_pos rfl] at run
    obtain ⟨filled, once, run⟩ := bind_ok run
    obtain rfl : { slots with warnings := filled } = after := Except.ok.inj run
    exact adds_of_once Decoder.faithful_string once (by simp [view]) (by simp [view])
      (by simp [view]) rfl
  · rw [Slots.read, if_neg warns] at run
    obtain ⟨value, decoded, run⟩ := bind_ok run
    obtain rfl : { slots with rest := slots.rest ++ [(key, value)] } = after := Except.ok.inj run
    exact adds_of_rest decoded (by simpa [view] using warns) rfl rfl

/-- A text that decodes as the reply to a job is an object with the reply's warnings, where they
    may be absent, and with all that the reply keeps. -/
theorem decodeBytes_jobReply {body : Bytes} {reply : JobReply}
    (decoded : decodeBytes JobReply.decoder body = .ok reply) :
    ∃ given : Members, decodeBytes Decoder.json body = .ok (.object given) ∧ given.keys.Nodup ∧
      (given.get? "Warnings").getD (.string "") = .string reply.warnings ∧
      reply.rest = given.without ["Warnings"] := by
  have fresh : view.Keeps {} [] := ⟨by simp [view], rfl⟩
  obtain ⟨given, slots, read, once, held, rest, closed⟩ :=
    view.decodeBytes_document steps_read fresh decoded
  obtain rfl : ⟨slots.warnings.getD "", Members.ofPairs slots.rest⟩ = reply := Except.ok.inj closed
  refine ⟨given, read, once, ?_, rest⟩
  rw [held "Warnings" (by simp [view])]
  cases there : slots.warnings <;> simp [view, there]

end JobReply

namespace ValidationReply

/-- The warnings and the errors are declared, all else is not. -/
def view : RecordView Slots where
  declared := ["Warnings", "ValidationErrors", "Error"]
  held slots name :=
    if name = "Warnings" then slots.warnings.map .string
    else if name = "ValidationErrors" then
      slots.validationErrors.map fun errors => (errors.map Json.ofStrings).getD .null
    else slots.error.map .string
  rest slots := slots.rest

theorem steps_read : view.Steps Slots.read := by
  intro room slots after key d run
  by_cases warns : key = "Warnings"
  · subst warns
    rw [Slots.read, if_pos rfl] at run
    obtain ⟨filled, once, run⟩ := bind_ok run
    obtain rfl : { slots with warnings := filled } = after := Except.ok.inj run
    exact adds_of_once Decoder.faithful_string once (by simp [view]) (by simp [view])
      (by simp [view]) rfl
  · by_cases lists : key = "ValidationErrors"
    · subst lists
      rw [Slots.read, if_neg warns, if_pos rfl] at run
      obtain ⟨filled, once, run⟩ := bind_ok run
      obtain rfl : { slots with validationErrors := filled } = after := Except.ok.inj run
      exact adds_of_once (Decoder.faithful_optional Decoder.faithful_strings) once (by simp [view])
        (by simp [view]) (by simp [view]) rfl
    · by_cases words : key = "Error"
      · subst words
        rw [Slots.read, if_neg warns, if_neg lists, if_pos rfl] at run
        obtain ⟨filled, once, run⟩ := bind_ok run
        obtain rfl : { slots with error := filled } = after := Except.ok.inj run
        exact adds_of_once Decoder.faithful_string once (by simp [view]) (by simp [view])
          (by simp [view]) rfl
      · rw [Slots.read, if_neg warns, if_neg lists, if_neg words] at run
        obtain ⟨value, decoded, run⟩ := bind_ok run
        obtain rfl : { slots with rest := slots.rest ++ [(key, value)] } = after :=
          Except.ok.inj run
        exact adds_of_rest decoded (by simp [view, warns, lists, words]) rfl rfl

/-- A text that decodes as the reply to a validation is an object with the reply's warnings and
    errors, where they may be absent, and with all that the reply keeps. -/
theorem decodeBytes_validationReply {body : Bytes} {reply : ValidationReply}
    (decoded : decodeBytes ValidationReply.decoder body = .ok reply) :
    ∃ given : Members, decodeBytes Decoder.json body = .ok (.object given) ∧ given.keys.Nodup ∧
      (given.get? "Warnings").getD (.string "") = .string reply.warnings ∧
      (given.get? "ValidationErrors").getD .null =
        (reply.validationErrors.map Json.ofStrings).getD .null ∧
      (given.get? "Error").getD (.string "") = .string reply.error ∧
      reply.rest = given.without ["Warnings", "ValidationErrors", "Error"] := by
  have fresh : view.Keeps {} [] := ⟨by simp [view], rfl⟩
  obtain ⟨given, slots, read, once, held, rest, closed⟩ :=
    view.decodeBytes_document steps_read fresh decoded
  obtain rfl : ⟨slots.warnings.getD "", slots.validationErrors.getD none, slots.error.getD "",
    Members.ofPairs slots.rest⟩ = reply := Except.ok.inj closed
  refine ⟨given, read, once, ?_, ?_, ?_, rest⟩
  · rw [held "Warnings" (by simp [view])]
    cases there : slots.warnings <;> simp [view, there]
  · rw [held "ValidationErrors" (by simp [view])]
    cases there : slots.validationErrors <;> simp [view, there]
  · rw [held "Error" (by simp [view])]
    cases there : slots.error <;> simp [view, there]

end ValidationReply
end JobGate
