import JobGate.Job
import JobGate.Json.Writer

/-!
# Envelopes

The bodies around jobs: the submission of a job and the backend's replies to it. Only the members
that are read or changed here are declared; all others are kept with their values and order, and
are written after the declared ones.
-/
namespace JobGate

/-- A submitted job and what came with it. -/
structure Submission where
  job : Job
  rest : Members := []
  deriving DecidableEq, Inhabited

namespace Submission

def toJson (submission : Submission) : Json :=
  .object (("Job", submission.job.toJson) :: submission.rest)

structure Slots where
  job : Option Job := none
  rest : List (String × Json) := []

def Slots.read (room : Room) (slots : Slots) (key : String) (d : Draft) : Decoded Slots :=
  if key = "Job" then do
    return { slots with job := ← Decoder.once key slots.job (Job.decoder room d) }
  else do return { slots with rest := slots.rest ++ [(key, ← Decoder.json room d)] }

/-- The submission that the members make up; the job must be there. -/
def Slots.close (slots : Slots) : Decoded Submission := do
  return ⟨← Decoder.required "Job" slots.job, Members.ofPairs slots.rest⟩

def decoder : Decoder Submission := Decoder.record "JobRequest" {} Slots.read Slots.close

end Submission

/-- The backend's reply to a job that is registered or planned. -/
structure JobReply where
  warnings : String := ""
  rest : Members := []
  deriving DecidableEq, Inhabited

namespace JobReply

def toJson (reply : JobReply) : Json := .object (("Warnings", .string reply.warnings) :: reply.rest)

structure Slots where
  warnings : Option String := none
  rest : List (String × Json) := []

def Slots.read (room : Room) (slots : Slots) (key : String) (d : Draft) : Decoded Slots :=
  if key = "Warnings" then do
    return { slots with warnings := ← Decoder.once key slots.warnings (Decoder.string room d) }
  else do return { slots with rest := slots.rest ++ [(key, ← Decoder.json room d)] }

def Slots.close (slots : Slots) : Decoded JobReply :=
  return ⟨slots.warnings.getD "", Members.ofPairs slots.rest⟩

def decoder : Decoder JobReply := Decoder.record "JobResponse" {} Slots.read Slots.close

end JobReply

/-- The backend's reply to a job that is validated. -/
structure ValidationReply where
  warnings : String := ""
  validationErrors : Option (List String) := none
  error : String := ""
  rest : Members := []
  deriving DecidableEq, Inhabited

namespace ValidationReply

def toJson (reply : ValidationReply) : Json :=
  .object <|
    [("Warnings", .string reply.warnings),
      ("ValidationErrors", (reply.validationErrors.map Json.ofStrings).getD .null),
      ("Error", .string reply.error)] ++ reply.rest

structure Slots where
  warnings : Option String := none
  validationErrors : Option (Option (List String)) := none
  error : Option String := none
  rest : List (String × Json) := []

def Slots.read (room : Room) (slots : Slots) (key : String) (d : Draft) : Decoded Slots :=
  if key = "Warnings" then do
    return { slots with warnings := ← Decoder.once key slots.warnings (Decoder.string room d) }
  else if key = "ValidationErrors" then do
    return { slots with
      validationErrors := ← Decoder.once key slots.validationErrors
        (Decoder.optional (Decoder.list Decoder.string) room d) }
  else if key = "Error" then do
    return { slots with error := ← Decoder.once key slots.error (Decoder.string room d) }
  else do return { slots with rest := slots.rest ++ [(key, ← Decoder.json room d)] }

def Slots.close (slots : Slots) : Decoded ValidationReply :=
  return ⟨slots.warnings.getD "", slots.validationErrors.getD none, slots.error.getD "",
    Members.ofPairs slots.rest⟩

def decoder : Decoder ValidationReply :=
  Decoder.record "ValidateResponse" {} Slots.read Slots.close

end ValidationReply
end JobGate
