import JobGate.Controller

/-!
# Counters

Five counters for each controller name: warnings, failures and changes of mutators, warnings and
errors of validators. A counter exists once something was counted for it, be it zero, and wraps
around at 64 bits. `Counters.text` writes them in the OpenMetrics format, the samples of a family in
the order of their text.
-/
namespace JobGate

/-- Counts by name. -/
abbrev Tally := List (String × Nat)

namespace Tally

/-- How many values a count can have: it is kept in 64 bits. -/
def range : Nat := UInt64.size

/-- Adds to the count of a name. -/
def add (name : String) (n : Nat) : Tally → Tally
  | [] => [(name, n % range)]
  | (k, m) :: rest =>
    if k = name then (k, (m + n) % range) :: rest else (k, m) :: add name n rest

def count (name : String) : Tally → Nat
  | [] => 0
  | (k, m) :: rest => if k = name then m else count name rest

end Tally

/-- The counters of all controllers. -/
structure Counters where
  mutatorWarnings : Tally := []
  mutatorErrors : Tally := []
  mutatorMutations : Tally := []
  validatorWarnings : Tally := []
  validatorErrors : Tally := []
  deriving DecidableEq, Inhabited

namespace Counters

/-- Counts an event. -/
def record (c : Counters) : Event → Counters
  | .mutatorWarnings name n => { c with mutatorWarnings := c.mutatorWarnings.add name n }
  | .mutatorError name => { c with mutatorErrors := c.mutatorErrors.add name 1 }
  | .mutatorMutation name => { c with mutatorMutations := c.mutatorMutations.add name 1 }
  | .validatorWarnings name n => { c with validatorWarnings := c.validatorWarnings.add name n }
  | .validatorErrors name n => { c with validatorErrors := c.validatorErrors.add name n }

/-- Counts events in order. -/
def recordAll (c : Counters) (events : List Event) : Counters := events.foldl record c

/-- The families: name, what is counted, and the counts. -/
def families (c : Counters) : List (String × String × Tally) :=
  [("mutator_warnings", "Total number of warnings raised by mutators", c.mutatorWarnings),
    ("mutator_errors", "Total number of mutator failures", c.mutatorErrors),
    ("mutator_mutations", "Total number of jobs changed by mutators", c.mutatorMutations),
    ("validator_warnings", "Total number of warnings raised by validators", c.validatorWarnings),
    ("validator_errors", "Total number of errors raised by validators", c.validatorErrors)]

/-- The line of one count. -/
def sample (family : String) (entry : String × Nat) : String :=
  "admission_" ++ family ++ "_total\x7bname=\"" ++ entry.1 ++ "\"\x7d " ++ toString entry.2

def familyLines : String × String × Tally → List String
  | (family, help, tally) =>
    ["# HELP admission_" ++ family ++ " " ++ help ++ ".",
        "# TYPE admission_" ++ family ++ " counter"]
      ++ (tally.map (sample family)).mergeSort (fun a b => decide (a ≤ b))

def lines (c : Counters) : List String := c.families.flatMap familyLines ++ ["# EOF"]

def text (c : Counters) : String := String.join (c.lines.map (· ++ "\n"))

end Counters
end JobGate
