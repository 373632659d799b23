import JobGate.Address
import JobGate.Blueprint
import JobGate.Settings.Duration
import JobGate.Yaml.Reader

/-!
# Settings

Where the gate listens, where its backend is and how long it may take, and the blueprints of the
controllers. Settings are written in YAML; whatever is absent has its default, and so has
everything in a text without a document.
-/
namespace JobGate

/-- The backend: its address, as written, and how long an exchange with it may take. -/
structure BackendSettings where
  address : String
  timeout : Duration
  deriving DecidableEq

/-- The settings of a gate. -/
structure Settings where
  bind : HostAddress
  portNumber : UInt16
  backend : BackendSettings
  mutators : List Blueprint
  validators : List Blueprint
  deriving DecidableEq

namespace BackendSettings

/-- A backend on this machine that may take 310 seconds. -/
def default : BackendSettings := ⟨"http://localhost:4646", ⟨310 * 1000000000, by decide⟩⟩

/-- Why an address is not that of a backend. -/
inductive AddressError where
  | invalid (address : String) (e : UriError)
  | notAbsolute (address : String)
  deriving DecidableEq

/-- The messages of an error, outermost first. -/
def AddressError.chain : AddressError → List String
  | .invalid address e => ["invalid backend address " ++ quoted address, e.message]
  | .notAbsolute address => ["backend address must be an absolute http URL: " ++ address]

/-- The address as a URI, which must have the scheme `http` and an authority. -/
def uri (settings : BackendSettings) : Except AddressError Uri :=
  match Uri.parse settings.address with
  | .error e => .error (.invalid settings.address e)
  | .ok uri =>
    if uri.scheme == some "http" && uri.authority != "" then .ok uri
    else .error (.notAbsolute settings.address)

end BackendSettings

namespace Settings

/-- The settings where nothing is set. -/
def default : Settings := ⟨.unspecified, 6464, .default, [], []⟩

def listenAddress (settings : Settings) : SocketAddress := ⟨settings.bind, settings.portNumber, 0⟩

/-- The entries of a map by the texts of their keys. -/
def keyed? (node : Yaml) : Option (List (String × Yaml)) := do
  (← node.entries?).mapM fun (key, v) => do return (← key.text?, v)

/-- The value of a key, which may stand once. -/
def single? (key : String) (entries : List (String × Yaml)) : Option (Option Yaml) :=
  match entries.filter (·.1 == key) with
  | [] => some none
  | [entry] => some (some entry.2)
  | _ => none

/-- The value of a key as it is read, or a default where it is absent. -/
def read? {α : Type} (key : String) (absent : α) (read : Yaml → Option α)
    (entries : List (String × Yaml)) : Option α := do
  match ← single? key entries with
  | none => return absent
  | some node => read node

/-- A duration: a text, or a number of seconds. -/
def duration? (node : Yaml) : Option Duration :=
  match node.value? with
  | some (.text s) => (Duration.parse s).toOption
  | some (.whole n) => if n < 0 then none else Duration.ofSeconds? n.toNat
  | _ => none

/-- A number of sixteen bits. -/
def portNumber? (node : Yaml) : Option UInt16 :=
  match node.value? with
  | some (.whole n) => if 0 ≤ n && n < 65536 then some n.toNat.toUInt16 else none
  | _ => none

def backend? (node : Yaml) : Option BackendSettings := do
  let entries ← keyed? node
  return {
    address := ← read? "address" BackendSettings.default.address Yaml.text? entries
    timeout := ← read? "timeout" BackendSettings.default.timeout duration? entries }

/-- The keys of a blueprint that are no parameters. -/
def blueprintKeys : List String := ["type", "name", "resolve_token"]

/-- A blueprint; what is not declared is a parameter. -/
def blueprint? (node : Yaml) : Option Blueprint := do
  let entries ← keyed? node
  let parameters ← (entries.filter fun (key, _) => !blueprintKeys.contains key).mapM
    fun (key, v) => do return (key, ← v.toJson?)
  return {
    kind := ← (← single? "type" entries).bind Yaml.text?
    name := ← (← single? "name" entries).bind Yaml.text?
    resolvesToken := ← read? "resolve_token" false Yaml.bool? entries
    parameters := Members.ofPairs parameters }

def blueprints? (node : Yaml) : Option (List Blueprint) := do (← node.items?).mapM blueprint?

/-- The settings that a document holds. -/
def ofYaml? (node : Yaml) : Option Settings := do
  let entries ← keyed? node
  return {
    bind := ← read? "bind" Settings.default.bind (fun v => v.text?.bind HostAddress.parse?) entries
    portNumber := ← read? "port" Settings.default.portNumber portNumber? entries
    backend := ← read? "backend" .default backend? entries
    mutators := ← read? "mutators" [] blueprints? entries
    validators := ← read? "validators" [] blueprints? entries }

def parse? (s : String) : Option Settings :=
  if (trimBlanks s.toList).isEmpty then some .default
  else match Yaml.read s with
    | none => none
    | some none => some .default
    | some (some node) => ofYaml? node

/-- Why settings cannot be loaded. -/
inductive LoadError where
  /-- There is no file, or it is not UTF-8. -/
  | unreadable (path : String)
  | invalid (path : String)
  deriving DecidableEq

def LoadError.message : LoadError → String
  | .unreadable path => "failed to read " ++ path
  | .invalid path => "invalid config " ++ path

/-- Reads the settings in the content of a file, if there is one. -/
def load (path : String) (content : Option Bytes) : Except LoadError Settings :=
  match content.bind Utf8.decode? with
  | none => .error (.unreadable path)
  | some s => match parse? s with
    | some settings => .ok settings
    | none => .error (.invalid path)

end Settings
end JobGate
