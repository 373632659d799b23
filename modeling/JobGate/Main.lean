import JobGate.Policy.Catalogue
import JobGate.Startup

/-!
# The program

Reads the command line and the settings, builds the gate, and shows what it would serve. Carrying
octets between sockets is left to the host, so the network of this program reaches nobody.
-/
namespace JobGate

/-- The network in which no connection can be opened. -/
def noNetwork : Network Unit where
  dispatch _ _ s := (.failed (.notConnected .unreachable), s)

/-- The directory of the policies that are known by name. -/
def policyDirectory : String := "policies"

/-- The content of a file, if it can be read. -/
def readFile? (path : String) : IO (Option Bytes) := do
  try
    let content ← IO.FS.readBinFile path
    return some content.toList
  catch _ => return none

/-- Builds the gate that options describe and shows it. -/
def runOptions (options : Options) : IO UInt32 := do
  let content ← match options.config with
    | some path => readFile? path
    | none => pure none
  match start options (fun _ => content) ⟨noNetwork, Catalogue.find? policyDirectory⟩ with
  | .error e =>
    IO.eprintln ("Error: " ++ e.fullText)
    return 1
  | .ok (settings, gate) =>
    IO.println (settings.listenAddress.text ++ " " ++ gate.describe)
    return 0

end JobGate

/-- Runs the program with the arguments after its name. -/
def main (args : List String) : IO UInt32 := do
  match JobGate.Options.parse args with
  | .error .displayHelp =>
    IO.println ("Options: " ++ String.intercalate ", "
      (JobGate.Options.Flag.names.map fun flag => "--" ++ flag.1))
    return 0
  | .error e =>
    IO.eprintln ("error: " ++ e.name)
    return 2
  | .ok options => JobGate.runOptions options
