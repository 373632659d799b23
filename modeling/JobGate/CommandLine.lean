import JobGate.Address
import JobGate.Text.Quoted

/-!
# The command line

Four options with values and a request for help. A value follows its option after an equality sign
or as the next argument; an argument that starts with a hyphen is no value. An option may be given
once. A value that is the next argument is looked at when the option after it is met, so an unknown
argument right after it is reported first.
-/
namespace JobGate

/-- How the log is written. -/
inductive LogStyle where
  | plain
  | json
  deriving DecidableEq, Inhabited

/-- The options of the program. -/
structure Options where
  logLevel : String := "admission_proxy=info,warn"
  logFormat : LogStyle := .plain
  config : Option String := none
  adminAddress : SocketAddress := ⟨.unspecified, 9990, 0⟩
  deriving DecidableEq

/-- Why a command line is not accepted. -/
inductive UsageError where
  | unknownArgument
  | invalidValue
  | valueValidation
  | argumentConflict
  | tooManyValues
  /-- No error: help is wanted. -/
  | displayHelp
  deriving DecidableEq

def UsageError.name : UsageError → String
  | .unknownArgument => "UnknownArgument"
  | .invalidValue => "InvalidValue"
  | .valueValidation => "ValueValidation"
  | .argumentConflict => "ArgumentConflict"
  | .tooManyValues => "TooManyValues"
  | .displayHelp => "DisplayHelp"

namespace Options

/-- An option that takes a value. -/
inductive Flag where
  | logLevel
  | logFormat
  | config
  | adminAddress
  deriving DecidableEq

def Flag.names : List (String × Flag) :=
  [("log-level", .logLevel), ("log-format", .logFormat), ("config", .config),
    ("admin-addr", .adminAddress)]

/-- Gives an option its value. -/
def set (options : Options) (flag : Flag) (value : String) : Except UsageError Options :=
  match flag with
  | .logLevel => .ok { options with logLevel := value }
  | .logFormat =>
    if value = "plain" then .ok { options with logFormat := .plain }
    else if value = "json" then .ok { options with logFormat := .json }
    else .error .invalidValue
  | .config =>
    if value = "" then .error .invalidValue else .ok { options with config := some value }
  | .adminAddress =>
    match SocketAddress.parse? value with
    | some adminAddress => .ok { options with adminAddress }
    | none => .error .valueValidation

structure Reading where
  options : Options := {}
  /-- The options that were given. -/
  given : List Flag := []
  /-- The last option, if its value was to be the next argument, and the value. -/
  pending : Option (Flag × Option String) := none

/-- Takes up an option with its value. -/
def Reading.take (flag : Flag) (value : String) (r : Reading) : Except UsageError Reading :=
  if r.given.contains flag then .error .argumentConflict
  else do return { r with options := ← r.options.set flag value, given := flag :: r.given }

/-- Takes up the option whose value was to be the next argument. -/
def Reading.settle (r : Reading) : Except UsageError Reading :=
  match r.pending with
  | none => .ok r
  | some (_, none) => .error .invalidValue
  | some (flag, some value) => Reading.take flag value { r with pending := none }

/-- Reads an argument after two hyphens: a name, and a value after an equality sign. -/
def Reading.long (name : String) (value : Option String) (r : Reading) :
    Except UsageError Reading :=
  match Flag.names.lookup name with
  | some flag => do
    let r ← r.settle
    match value with
    | some value => r.take flag value
    | none => return { r with pending := some (flag, none) }
  | none =>
    if name = "help" then
      if value.isSome then .error .tooManyValues
      else do
        let _ ← r.settle
        throw .displayHelp
    else .error .unknownArgument

/-- Reads an argument after one hyphen. -/
def Reading.short (letters : List Char) (r : Reading) : Except UsageError Reading :=
  if letters.head? = some 'h' then do
    let _ ← r.settle
    throw .displayHelp
  else .error .unknownArgument

/-- Reads an argument that is no option. -/
def Reading.plain (value : String) (r : Reading) : Except UsageError Reading :=
  match r.pending with
  | some (flag, none) => .ok { r with pending := some (flag, some value) }
  | _ => .error .unknownArgument

/-- Reads arguments; after a bare pair of hyphens there are no options. -/
def Reading.run : List String → Reading → Except UsageError Reading
  | [], r => r.settle
  | arg :: rest, r =>
    match arg.toList with
    | ['-', '-'] => if rest.isEmpty then r.settle else .error .unknownArgument
    | '-' :: '-' :: long =>
      let name := String.ofList (long.takeWhile (· != '='))
      let value := match long.dropWhile (· != '=') with
        | [] => none
        | _ :: value => some (String.ofList value)
      do run rest (← r.long name value)
    | '-' :: c :: letters => do run rest (← r.short (c :: letters))
    | _ => do run rest (← r.plain arg)

/-- Reads the arguments after the program's name. -/
def parse (args : List String) : Except UsageError Options :=
  (Reading.run args {}).map (·.options)

/-- The options as shown to an operator. -/
def describe (options : Options) : String :=
  "Args \x7b log_level: " ++ quoted options.logLevel
    ++ ", log_format: " ++ (match options.logFormat with | .plain => "Plain" | .json => "Json")
    ++ ", config: " ++ (match options.config with
      | some path => "Some(" ++ quoted path ++ ")"
      | none => "None")
    ++ ", admin_addr: " ++ options.adminAddress.text ++ " \x7d"

end Options
end JobGate
