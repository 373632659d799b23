/-!
# Routes

Three kinds of requests carry a job: to register it, to plan it, and to validate it. They are
recognised by method and path; every other request passes through untouched.
-/
namespace JobGate

/-- What a job is submitted for. -/
inductive Route where
  | register
  | plan
  | validate
  deriving DecidableEq, Inhabited

namespace Route

def name : Route → String
  | .register => "register"
  | .plan => "plan"
  | .validate => "validate"

/-- The methods that submit a job. -/
def submits (method : String) : Bool := method == "PUT" || method == "POST"

/-- A character of an identifier after the first. -/
def isIdChar (c : Char) : Bool := c.isAlphanum || c == '-'

/-- A job's identifier in a path: a letter, then letters, digits and hyphens. -/
def isId : List Char → Bool
  | [] => false
  | c :: rest => c.isAlpha && rest.all isIdChar

/-- What follows a text at the front of another. -/
def after? : List Char → List Char → Option (List Char)
  | [], cs => some cs
  | _ :: _, [] => none
  | p :: ps, c :: cs => if p == c then after? ps cs else none

/-- The route of a path below `/v1/job/`. -/
def ofJobPath (cs : List Char) : Option Route :=
  let id := cs.takeWhile isIdChar
  if !isId id then none
  else match cs.dropWhile isIdChar with
    | [] => some .register
    | rest => if rest == "/plan".toList then some .plan else none

/-- The route of a path. -/
def ofPath (path : String) : Option Route :=
  if path == "/v1/jobs" then some .register
  else if path == "/v1/validate/job" then some .validate
  else (after? "/v1/job/".toList path.toList).bind ofJobPath

/-- The route of a request, if it submits a job. -/
def ofRequest? (method path : String) : Option Route :=
  if submits method then ofPath path else none

end Route
end JobGate
