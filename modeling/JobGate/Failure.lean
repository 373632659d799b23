/-!
# Failures of controllers

`Causes` are the independent reasons why a job is refused, in the order in which they were found.
Their text counts them and gives each a line of its own. A failure is a message with what lies
behind it. Several causes reported together may stand at its core, under any number of contexts;
`Failure.causes?` finds them there.
-/
namespace JobGate

/-- Independent causes, in order. -/
structure Causes where
  list : List String
  deriving DecidableEq, Inhabited

namespace Causes

def none : Causes := ⟨[]⟩

/-- The causes of both, in order. -/
def append (a b : Causes) : Causes := ⟨a.list ++ b.list⟩

instance : Append Causes := ⟨append⟩

@[simp] theorem list_append (a b : Causes) : (a ++ b).list = a.list ++ b.list := rfl

def isEmpty (causes : Causes) : Bool := causes.list.isEmpty

def count (causes : Causes) : Nat := causes.list.length

/-- The line that counts the causes. -/
def heading (causes : Causes) : String :=
  if causes.count = 1 then "1 error occurred:" else toString causes.count ++ " errors occurred:"

/-- What stands before each cause. -/
def bullet : String := "\n\t* "

def text (causes : Causes) : String :=
  causes.heading ++ String.join (causes.list.map (bullet ++ ·)) ++ "\n\n"

end Causes

/-- Why a controller failed. -/
inductive Failure where
  /-- A message, and the messages of what lies behind it, outermost first. -/
  | plain (message : String) (behind : List String)
  /-- Several causes reported together. -/
  | many (causes : Causes)
  /-- A failure seen in a wider context. -/
  | context (message : String) (inner : Failure)
  deriving DecidableEq, Inhabited

namespace Failure

/-- The message of the failure and of everything behind it, outermost first. -/
def chain : Failure → List String
  | .plain message behind => message :: behind
  | .many causes => [causes.text]
  | .context message inner => message :: inner.chain

/-- The outermost message. -/
def message : Failure → String
  | .plain message _ => message
  | .many causes => causes.text
  | .context message _ => message

/-- All messages in one line. -/
def fullText (failure : Failure) : String := String.intercalate ": " failure.chain

/-- The causes reported together, wherever they stand. -/
def causes? : Failure → Option Causes
  | .plain _ _ => none
  | .many causes => some causes
  | .context _ inner => inner.causes?

/-- The failure of nested messages, outermost first. -/
def ofChain : List String → Failure
  | [] => .plain "" []
  | message :: behind => .plain message behind

end Failure
end JobGate
