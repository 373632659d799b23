import JobGate.ImageCheck
import JobGate.Pipeline
import JobGate.Policy.Engine
import JobGate.Webhook

/-!
# Blueprints of controllers

A blueprint is one entry of the settings: the kind of a controller, its name, whether the caller's
token is to be resolved, and parameters. `Pipeline.build` turns lists of blueprints into a pipeline,
mutators first; the first blueprint that cannot be built decides the error.
-/
namespace JobGate

/-- The settings of one controller. -/
structure Blueprint where
  kind : String
  name : String
  resolvesToken : Bool := false
  parameters : Members := []
  deriving DecidableEq, Inhabited

namespace Blueprint

structure Slots where
  kind : Option String := none
  name : Option String := none
  resolvesToken : Option Bool := none
  parameters : List (String × Json) := []

/-- Reads a member; what is not declared is a parameter. -/
def Slots.read (room : Room) (slots : Slots) (key : String) (d : Draft) : Decoded Slots :=
  if key = "type" then do
    return { slots with kind := ← Decoder.once key slots.kind (Decoder.string room d) }
  else if key = "name" then do
    return { slots with name := ← Decoder.once key slots.name (Decoder.string room d) }
  else if key = "resolve_token" then do
    return { slots with
      resolvesToken := ← Decoder.once key slots.resolvesToken (Decoder.bool room d) }
  else do return { slots with parameters := slots.parameters ++ [(key, ← Decoder.json room d)] }

def Slots.close (slots : Slots) : Decoded Blueprint := do
  return {
    kind := ← Decoder.required "type" slots.kind
    name := ← Decoder.required "name" slots.name
    resolvesToken := slots.resolvesToken.getD false
    parameters := Members.ofPairs slots.parameters }

def decoder : Decoder Blueprint := Decoder.record "ControllerSpec" {} Slots.read Slots.close

end Blueprint

/-! ## Parameters -/

/-- The parameters of an endpoint, as written. -/
structure EndpointPlan where
  target : String
  method : Option String := none
  deriving DecidableEq

namespace EndpointPlan

structure Slots where
  target : Option String := none
  method : Option (Option String) := none

def Slots.read (room : Room) (slots : Slots) (key : String) (d : Draft) : Decoded Slots :=
  if key = "endpoint" then do
    return { slots with target := ← Decoder.once key slots.target (Decoder.string room d) }
  else if key = "method" then do
    return { slots with
      method := ← Decoder.once key slots.method (Decoder.optional Decoder.string room d) }
  else do
    d.skim
    return slots

def Slots.close (slots : Slots) : Decoded EndpointPlan := do
  return ⟨← Decoder.required "endpoint" slots.target, slots.method.getD none⟩

/-- Reads an endpoint written as a list of its two fields, of which the second may be absent. -/
def ofFields (room : Room) (fields : Decoder.Fields) :
    Decoded (EndpointPlan × Decoder.Fields) := do
  let (target, fields) ←
    fields.next 0 (Decoder.withElements "EndpointConfig" 2) (Decoder.string room)
  let (method, fields) ← fields.next? (Decoder.optional Decoder.string room)
  return (⟨target, method.getD none⟩, fields)

def decoder : Decoder EndpointPlan :=
  Decoder.recordOrList "EndpointConfig" 2 {} Slots.read Slots.close ofFields

end EndpointPlan

/-- The parameters of a policy, as written. -/
structure PolicyPlan where
  path : String
  query : String
  verifier : Option EndpointPlan := none
  deriving DecidableEq

namespace PolicyPlan

structure Slots where
  path : Option String := none
  query : Option String := none
  verifier : Option (Option EndpointPlan) := none

def Slots.read (room : Room) (slots : Slots) (key : String) (d : Draft) : Decoded Slots :=
  if key = "filename" then do
    return { slots with path := ← Decoder.once key slots.path (Decoder.path room d) }
  else if key = "query" then do
    return { slots with query := ← Decoder.once key slots.query (Decoder.string room d) }
  else if key = "verifier" then do
    return { slots with
      verifier := ← Decoder.once key slots.verifier (Decoder.optional EndpointPlan.decoder room d) }
  else do
    d.skim
    return slots

def Slots.close (slots : Slots) : Decoded PolicyPlan := do
  return ⟨← Decoder.required "filename" slots.path, ← Decoder.required "query" slots.query,
    slots.verifier.getD none⟩

/-- Reads a policy written as a list of its three fields, of which the third may be absent. -/
def ofFields (room : Room) (fields : Decoder.Fields) : Decoded (PolicyPlan × Decoder.Fields) := do
  let wanted := Decoder.withElements "PolicyRule" 3
  let (path, fields) ← fields.next 0 wanted (Decoder.path room)
  let (query, fields) ← fields.next 1 wanted (Decoder.string room)
  let (verifier, fields) ← fields.next? (Decoder.optional EndpointPlan.decoder room)
  return (⟨path, query, verifier.getD none⟩, fields)

def decoder : Decoder PolicyPlan :=
  Decoder.recordOrList "PolicyRule" 3 {} Slots.read Slots.close ofFields

end PolicyPlan

/-! ## Building -/

/-- Why the parameters of a blueprint are not accepted. -/
inductive PartError where
  | parameters (kind : String) (e : DecodeError)
  | endpoint (text : String) (e : UriError)
  | method (text : String)
  /-- There is no policy in that file. -/
  | policy (path : String)
  deriving DecidableEq

/-- The messages of an error, outermost first. -/
def PartError.chain : PartError → List String
  | .parameters kind e => ["invalid " ++ kind ++ " parameters", e.message]
  | .endpoint text e => ["invalid endpoint " ++ quoted text, e.message]
  | .method text => ["invalid method " ++ quoted text, methodMessage]
  | .policy path => ["failed to load policy: " ++ path]

/-- What controllers are built with: the network, and the policies by path. A policy that is there
makes an engine of the text of a query and of the verifier that it may ask about images. -/
structure Resources (σ : Type) where
  network : Network σ
  policy? : String → Option (String → Option (Verifier σ) → PolicyEngine σ)

/-- A text with ASCII small letters made capital. -/
def upperAscii (s : String) : String := String.ofList (s.toList.map Char.toUpper)

/-- The endpoint of a plan; a request is a POST unless the plan names another method. -/
def EndpointPlan.build (plan : EndpointPlan) : Except PartError Endpoint := do
  let uri ← match Uri.parse plan.target with
    | .ok uri => pure uri
    | .error e => throw (.endpoint plan.target e)
  match plan.method with
  | none => return ⟨uri, "POST"⟩
  | some text => match method? (upperAscii text) with
    | some method => return ⟨uri, method⟩
    | none => throw (.method text)

namespace Blueprint

variable {σ : Type}

/-- The value of a parameter that must be there; other parameters are passed over. -/
def parameter {α : Type} (key : String) (value : Decoder α) (blueprint : Blueprint) :
    Except PartError α :=
  let decoded := do
    let v ← Decoder.required key (Members.get? key blueprint.parameters)
    v.decode value
  match decoded with
  | .ok a => .ok a
  | .error e => .error (.parameters blueprint.kind e)

/-- The endpoint under a key of the parameters. -/
def endpoint (key : String) (blueprint : Blueprint) : Except PartError Endpoint := do
  (← blueprint.parameter key EndpointPlan.decoder).build

/-- The policy query of the parameters. -/
def policyEngine (resources : Resources σ) (blueprint : Blueprint) :
    Except PartError (PolicyEngine σ) := do
  let plan ← blueprint.parameter "opa_rule" PolicyPlan.decoder
  let verifier ← plan.verifier.mapM EndpointPlan.build
  match resources.policy? plan.path with
  | some policy =>
    return policy plan.query (verifier.map (Verifier.overNetwork resources.network))
  | none => throw (.policy plan.path)

end Blueprint

inductive MutatorKind where
  | policy | patchWebhook | documentWebhook
  deriving DecidableEq

inductive ValidatorKind where
  | policy | webhook | image
  deriving DecidableEq

/-- The kinds of mutators by name, in the order of their names. -/
def MutatorKind.names : List (String × MutatorKind) :=
  [("json_patch_webhook", .patchWebhook), ("opa_json_patch", .policy),
    ("webhook", .documentWebhook)]

/-- The kinds of validators by name, in the order of their names. -/
def ValidatorKind.names : List (String × ValidatorKind) :=
  [("image", .image), ("opa", .policy), ("webhook", .webhook)]

/-- The known kinds as shown to an operator. -/
def describeKinds : String :=
  "Registry \x7b mutators: " ++ quotedList (MutatorKind.names.map (·.1))
    ++ ", validators: " ++ quotedList (ValidatorKind.names.map (·.1)) ++ " \x7d"

/-- Why a blueprint cannot be built. -/
inductive BuildError where
  | unknownMutator (kind : String)
  | unknownValidator (kind : String)
  | mutator (name : String) (e : PartError)
  | validator (name : String) (e : PartError)
  deriving DecidableEq

/-- The messages of an error, outermost first. -/
def BuildError.chain : BuildError → List String
  | .unknownMutator kind => ["unknown mutator type " ++ quoted kind]
  | .unknownValidator kind => ["unknown validator type " ++ quoted kind]
  | .mutator name e => ("invalid mutator " ++ name) :: e.chain
  | .validator name e => ("invalid validator " ++ name) :: e.chain

def BuildError.fullText (e : BuildError) : String := String.intercalate ": " e.chain

namespace Blueprint

variable {σ : Type}

def mutatorOfKind (resources : Resources σ) (blueprint : Blueprint) :
    MutatorKind → Except PartError (Mutator σ)
  | .policy => do
    return PolicyEngine.mutator blueprint.name blueprint.resolvesToken
      (← blueprint.policyEngine resources)
  | .patchWebhook => do
    return patchWebhook resources.network blueprint.name blueprint.resolvesToken
      (← blueprint.endpoint "webhook")
  | .documentWebhook => do
    return documentWebhook resources.network blueprint.name blueprint.resolvesToken
      (← blueprint.endpoint "webhook")

def validatorOfKind (resources : Resources σ) (blueprint : Blueprint) :
    ValidatorKind → Except PartError (Validator σ)
  | .policy => do
    return PolicyEngine.validator blueprint.name blueprint.resolvesToken
      (← blueprint.policyEngine resources)
  | .webhook => do
    return verdictWebhook resources.network blueprint.name blueprint.resolvesToken
      (← blueprint.endpoint "webhook")
  | .image => do
    return imageCheck blueprint.name blueprint.resolvesToken
      (Verifier.overNetwork resources.network (← blueprint.endpoint "verifier"))

def mutator (resources : Resources σ) (blueprint : Blueprint) : Except BuildError (Mutator σ) :=
  match MutatorKind.names.lookup blueprint.kind with
  | none => .error (.unknownMutator blueprint.kind)
  | some kind => match blueprint.mutatorOfKind resources kind with
    | .ok m => .ok m
    | .error e => .error (.mutator blueprint.name e)

def validator (resources : Resources σ) (blueprint : Blueprint) :
    Except BuildError (Validator σ) :=
  match ValidatorKind.names.lookup blueprint.kind with
  | none => .error (.unknownValidator blueprint.kind)
  | some kind => match blueprint.validatorOfKind resources kind with
    | .ok v => .ok v
    | .error e => .error (.validator blueprint.name e)

end Blueprint

/-- The pipeline of blueprints, in their order. -/
def Pipeline.build {σ : Type} (resources : Resources σ) (mutators validators : List Blueprint) :
    Except BuildError (Pipeline σ) := do
  let mutators ← mutators.mapM (Blueprint.mutator resources)
  let validators ← validators.mapM (Blueprint.validator resources)
  return ⟨mutators, validators⟩

end JobGate
