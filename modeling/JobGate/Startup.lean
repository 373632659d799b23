import JobGate.CommandLine
import JobGate.Gateway.Basic
import JobGate.LogFilter
import JobGate.Settings.Basic

/-!
# Starting

From options to a gate: the filter of the log is looked at, the settings are loaded, the backend's
address is read, and the controllers are built, in this order; the first thing wrong decides the
error.
-/
namespace JobGate

/-- Why the program does not start. -/
inductive StartError where
  | logFilter
  | settings (e : Settings.LoadError)
  | address (e : BackendSettings.AddressError)
  | controllers (e : BuildError)
  /-- The backend cannot be asked about tokens; the messages, outermost first. -/
  | identity (chain : List String)
  deriving DecidableEq

/-- The messages of an error, outermost first. -/
def StartError.chain : StartError → List String
  | .logFilter => ["invalid log level"]
  | .settings e => [e.message]
  | .address e => e.chain
  | .controllers e => "failed to build admission controllers" :: e.chain
  | .identity chain => chain

def StartError.fullText (e : StartError) : String := String.intercalate ": " e.chain

variable {σ : Type}

/-- The settings that the options name; the defaults if they name none. -/
def Options.settings (options : Options) (file : String → Option Bytes) :
    Except Settings.LoadError Settings :=
  match options.config with
  | some path => Settings.load path (file path)
  | none => .ok .default

/-- The gate that settings describe. It resolves tokens if some controller wants it. -/
def Settings.gateway (settings : Settings) (resources : Resources σ) :
    Except StartError (Gateway σ) := do
  let backend ← settings.backend.uri.mapError .address
  let pipeline ←
    (Pipeline.build resources settings.mutators settings.validators).mapError .controllers
  let identity ←
    if pipeline.resolvesToken then
      match backend.identityTarget with
      | .ok uri => pure (some (IdentitySource.ofBackend resources.network uri))
      | .error chain => throw (.identity chain)
    else pure none
  return {
    backend
    timeLimit := settings.backend.timeout
    pipeline
    network := resources.network
    identity }

/-- The settings and the gate that options lead to. -/
def start (options : Options) (file : String → Option Bytes) (resources : Resources σ) :
    Except StartError (Settings × Gateway σ) := do
  if !LogFilter.isWellFormed options.logLevel then throw .logFilter
  let settings ← (options.settings file).mapError .settings
  return (settings, ← settings.gateway resources)

end JobGate
