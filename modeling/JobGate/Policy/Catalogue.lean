import JobGate.ImageCheck
import JobGate.Policy.Engine

/-!
# A catalogue of policies

What the program has in place of an interpreter of policy files. A policy is a set of named rules
over the input document; a rule has a value, is undefined, or fails. A query binds names to rules:
`warnings = data.admission.warnings; errors = …`. One undefined rule leaves the query without a
result. Values that come out of an evaluation have their members sorted by key, and a double
without fraction has become a whole number where one of 64 bits can hold it.

There are six policies by file name: who owns a job, which datacenters it names, limits of its
priority and region, which images it runs, results of odd shapes, and one that never evaluates.
-/
namespace JobGate

/-- What a rule yields. -/
inductive RuleValue where
  | undefined
  | value (v : Json)
  | failed

/-- The value of a rule, given a verifier for images, the name of the rule, and the input. -/
structure Policy (σ : Type) where
  rule : Option (Verifier σ) → String → Json → σ → RuleValue × σ

/-- The text of every failed evaluation; the engine's own wording is of no concern here. -/
def engineMessage : String := "<engine>"

/-- A number as an evaluation gives it. -/
def Number.evaluated : Number → Number
  | .whole n => .whole n
  | .double x =>
    let n : Int := if x.negative then -x.magnitudeFloor else x.magnitudeFloor
    if x.isIntegral && -0x8000000000000000 ≤ n && n < 0x10000000000000000 then .whole n else .double x

/-- Puts a member before the first with a greater key. -/
def Members.insertSorted (member : String × Json) : Members → Members
  | [] => [member]
  | (k, v) :: rest =>
    if member.1 < k then member :: (k, v) :: rest else (k, v) :: insertSorted member rest

mutual
/-- A document as an evaluation gives it. -/
def Json.evaluated : Json → Json
  | .number n => .number n.evaluated
  | .array items => .array (evaluatedItems items)
  | .object members => .object (evaluatedMembers members)
  | v => v
def Json.evaluatedItems : List Json → List Json
  | [] => []
  | v :: rest => evaluated v :: evaluatedItems rest
/-- Members as an evaluation gives them: sorted by key. -/
def Json.evaluatedMembers : List (String × Json) → Members
  | [] => []
  | (k, v) :: rest => Members.insertSorted (k, evaluated v) (evaluatedMembers rest)
end

/-- What a name is bound to. -/
inductive BindingTarget where
  | rule (name : String)
  /-- A place where no policy has rules. -/
  | nothing
  /-- An expression that cannot be evaluated. -/
  | invalid
  deriving DecidableEq

/-- Reads what stands after the sign of equality. -/
def BindingTarget.parse (text : String) : BindingTarget :=
  match text.splitOn "." with
  | ["data", "admission", name] => .rule name
  | "data" :: _ => .nothing
  | _ => .invalid

/-- Reads `name = target`. -/
def parseBinding (text : String) : String × BindingTarget :=
  match text.splitOn "=" with
  | [name, target] => (trimmed name, .parse (trimmed target))
  | _ => ("", .invalid)

/-- Reads the bindings of a query. -/
def parseQuery (text : String) : List (String × BindingTarget) :=
  (text.splitOn ";").map parseBinding

namespace Policy

variable {σ : Type}

def evalTarget (policy : Policy σ) (verifier : Option (Verifier σ)) (input : Json) :
    BindingTarget → σ → RuleValue × σ
  | .rule name, s => policy.rule verifier name input s
  | .nothing, s => (.undefined, s)
  | .invalid, s => (.failed, s)

/-- Evaluates bindings in order: all of them, none because one is undefined, or a failure. -/
def evalBindings (policy : Policy σ) (verifier : Option (Verifier σ)) (input : Json) :
    List (String × BindingTarget) → σ → Except (List String) (Option Members) × σ
  | [], s => (.ok (some []), s)
  | (name, target) :: rest, s =>
    match policy.evalTarget verifier input target s with
    | (.failed, s) => (.error [engineMessage], s)
    | (.undefined, s) => (.ok none, s)
    | (.value v, s) =>
      match evalBindings policy verifier input rest s with
      | (.error chain, s) => (.error chain, s)
      | (.ok none, s) => (.ok none, s)
      | (.ok (some others), s) => (.ok (some ((name, v.evaluated) :: others)), s)

/-- The engine that evaluates the query with a text. -/
def query (policy : Policy σ) (text : String) (verifier : Option (Verifier σ)) :
    PolicyEngine σ where
  eval input s :=
    match policy.evalBindings verifier input (parseQuery text) s with
    | (.error chain, s) => (.error chain, s)
    | (.ok none, s) => (.ok [], s)
    | (.ok (some bindings), s) => (.ok [bindings], s)

/-- A policy whose rules ask no verifier. -/
def plain (rule : String → Json → RuleValue) : Policy σ where
  rule _ name input s := (rule name input, s)

end Policy

namespace Catalogue

/-- The rules that are defined. -/
def defined (rules : List (String × RuleValue)) (name : String) : RuleValue :=
  (rules.lookup name).getD .undefined

/-- The text, if the condition holds. -/
def givenIf (condition : Bool) (text : String) : List String := if condition then [text] else []

/-- The member is missing or false. -/
def isAbsentOrFalse (v : Option Json) : Bool :=
  match v with
  | none | some (.bool false) => true
  | some _ => false

/-- The caller's accessor becomes the owner in the job's metadata. -/
def owner (name : String) (input : Json) : RuleValue :=
  match (input.field? "context").bind (Json.field? "accessorID") with
  | none => .undefined
  | some accessor =>
    defined [("patch", .value (.array [.object [("op", .string "add"), ("path", .string "/Meta"),
      ("value", .object [("owner", accessor)])]]))] name

/-- A job without datacenters is warned about by its identifier. -/
def datacenters (name : String) (input : Json) : RuleValue :=
  let job := (input.field? "job").getD (.object [])
  if !isAbsentOrFalse (job.field? "Datacenters") then .undefined
  else match job.field? "ID" with
    | none => .undefined
    | some (.string id) =>
      defined [("warnings", .value (Json.ofStrings ["job " ++ id ++ " has no datacenters"]))] name
    | some _ => if name == "warnings" then .failed else .undefined

/-- The value comes after the number 80 in the order of all values: null, truth values, numbers,
then the rest. -/
def isAboveEighty : Json → Bool
  | .null | .bool _ => false
  | .number (.whole n) => 80 < n
  | .number (.double x) => x.exceeds 80
  | .string _ | .array _ | .object _ => true

/-- Errors for a high priority or a missing region; warnings for an unknown caller or a type other
than service. Both lists are sorted. -/
def limits (name : String) (input : Json) : RuleValue :=
  let job := (input.field? "job").getD (.object [])
  let accessor := (input.field? "context").bind (Json.field? "accessorID")
  let errors :=
    givenIf ((job.field? "Priority").any isAboveEighty) "priority too high"
      ++ givenIf (isAbsentOrFalse (job.field? "Region")) "region is required"
  let warnings :=
    givenIf (accessor == some (.string "")) "anonymous caller"
      ++ match job.field? "Type" with
        | some (.string kind) => givenIf (kind != "service") ("type " ++ kind)
        | _ => []
  defined [("errors", .value (Json.ofStrings errors)),
    ("warnings", .value (Json.ofStrings warnings))] name

/-- The values of an array, or of an object in the order of its keys. -/
def elements : Json → List Json
  | .array items => items
  | .object members => (Json.evaluatedMembers members).map (·.2)
  | _ => []

/-- The images of all tasks of all groups. -/
def taskImages (input : Json) : List Json :=
  let groups := (((input.field? "job").bind (Json.field? "TaskGroups")).map elements).getD []
  let tasks := groups.flatMap fun group => ((group.field? "Tasks").map elements).getD []
  tasks.filterMap fun task => (task.field? "Config").bind (Json.field? "image")

variable {σ : Type}

/-- An error for each image that the verifier does not accept; `none` where evaluation fails. -/
def untrusted (verifier : Option (Verifier σ)) : List Json → σ → Option (List String) × σ
  | [], s => (some [], s)
  | image :: rest, s =>
    match verifier, image with
    | some v, .string reference =>
      match v.verify reference s with
      | (.ok (), s) => untrusted verifier rest s
      | (.error _, s) =>
        let (others, s) := untrusted verifier rest s
        (others.map (("untrusted image " ++ reference) :: ·), s)
    | _, _ => (none, s)

/-- Errors for the images that the verifier does not accept. -/
def images : Policy σ where
  rule verifier name input s :=
    if name != "errors" then (.undefined, s)
    else match untrusted verifier (taskImages input) s with
      | (some errors, s) => (.value (Json.ofStrings errors), s)
      | (none, s) => (.failed, s)

/-- Results of other shapes than the expected ones, a copy of the job, and a patch that does not
apply. -/
def shapes (name : String) (input : Json) : RuleValue :=
  let job := (input.field? "job").getD .null
  let operation (op path : String) : List (String × Json) :=
    [("op", .string op), ("path", .string path)]
  defined [
    ("patch", .value (.object (operation "add" "/Meta"))),
    ("warnings", .value (.array [.string "text", Json.ofInt 7,
      .object [("a", .string "x"), ("b", .array [.bool true, .null])], .array [], .null])),
    ("errors", .value (.string "not a list")),
    ("echo", .value (.array [.object (operation "add" "/Copy" ++ [("value", job)])])),
    ("bad", .value (.array [.object (operation "remove" "/Missing")]))] name

def policies : List (String × Policy σ) := [
  ("owner.rego", .plain owner),
  ("datacenters.rego", .plain datacenters),
  ("limits.rego", .plain limits),
  ("images.rego", images),
  ("shapes.rego", .plain shapes),
  ("conflict.rego", .plain fun _ _ => .failed)]

/-- The queries of the policy in a file of a directory. -/
def find? (directory path : String) : Option (String → Option (Verifier σ) → PolicyEngine σ) :=
  (policies.find? fun (file, _) => directory ++ "/" ++ file == path).map (·.2.query)

end Catalogue
end JobGate
