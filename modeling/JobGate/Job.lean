import JobGate.Json.Decoder

/-!
# Jobs

A job is an object of which only a few members are looked at: its identifier, its metadata, and
the tasks of its groups. Everything else is carried along. `Job.metadata?` and `Job.setMetadata`
read and write one text of the metadata; the other members keep their values and places.
-/
namespace JobGate

/-- What stands in the place of a value where another kind was wanted. -/
def Json.found : Json → Found
  | .null => .null
  | .bool b => .bool b
  | .number (.whole n) => .whole n
  | .number (.double x) => .double x
  | .string s => .string s
  | .array _ => .list
  | .object _ => .map

/-- A job: an object. -/
structure Job where
  members : Members
  deriving DecidableEq, Inhabited

/-- A task of a job: an object. -/
structure Task where
  members : Members
  deriving DecidableEq

namespace Job

def empty : Job := ⟨[]⟩

def toJson (job : Job) : Json := .object job.members

/-- A document that is an object is a job. -/
def ofJson : Json → Decoded Job
  | .object members => .ok ⟨members⟩
  | v => .error (.mismatch v.found "a map")

def decoder : Decoder Job := fun room d => (Decoder.members room d).map Job.mk

/-- The identifier, if it is a string. -/
def id? (job : Job) : Option String := (job.members.get? "ID").bind Json.string?

/-- The text of a key of the metadata. -/
def metadata? (key : String) (job : Job) : Option String :=
  ((job.members.get? "Meta").bind (Json.field? key)).bind Json.string?

/-- The metadata as members; anything but an object counts as none. -/
def metaMembers (job : Job) : Members := ((job.members.get? "Meta").bind Json.object?).getD []

/-- Gives a key of the metadata a text. Metadata that is no object is replaced. -/
def setMetadata (key value : String) (job : Job) : Job :=
  ⟨job.members.set "Meta" (.object (job.metaMembers.set key (.string value)))⟩

/-- The tasks of one group: the objects among its list of tasks. -/
def tasksOfGroup (group : Json) : List Task :=
  (((group.field? "Tasks").bind Json.array?).getD []).filterMap fun task =>
    task.object?.map Task.mk

/-- The tasks of all groups, in document order. -/
def tasks (job : Job) : List Task :=
  (((job.members.get? "TaskGroups").bind Json.array?).getD []).flatMap tasksOfGroup

/-- The same job up to the order of members. -/
def same (a b : Job) : Bool := a.toJson.same b.toJson

end Job

namespace Task

/-- The name, if it is a string. -/
def name? (task : Task) : Option String := (task.members.get? "Name").bind Json.string?

/-- The driver, if it is a string. -/
def driver? (task : Task) : Option String := (task.members.get? "Driver").bind Json.string?

/-- An entry of the driver's configuration. -/
def config? (key : String) (task : Task) : Option Json :=
  (task.members.get? "Config").bind (Json.field? key)

/-- The image that the driver's configuration names. -/
def image? (task : Task) : Option String := (task.config? "image").bind Json.string?

end Task
end JobGate
