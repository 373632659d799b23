import JobGate.Envelope
import JobGate.Failure
import JobGate.Route

/-!
# Reports

What admission has to say about one submission: warnings, and for a job that is only validated the
errors that the validators found. `Report.fold` folds it into the backend's reply. That has room for
one warning text: `combinedWarnings` makes the text that the backend gave the first bullet of a list
and lets the warnings raised here follow; without any of those the backend's text stays as it is.
-/
namespace JobGate

/-- The bullets of the merged text: the backend's text unless it is empty, then the others. -/
def warningBullets (given : String) (raised : List String) : List String :=
  (if given = "" then [] else [given]) ++ raised

/-- The line that counts the bullets. -/
def warningHeading (count : Nat) : String :=
  if count = 1 then "1 warning:\n" else toString count ++ " warnings:\n"

/-- The text of the backend's warnings and those raised here. -/
def combinedWarnings (given : String) (raised : List String) : String :=
  if raised.isEmpty then given
  else
    let bullets := warningBullets given raised
    warningHeading bullets.length ++ String.join (bullets.map ("\n* " ++ ·))

/-- What is to be reported about a submission. -/
structure Report where
  route : Route
  warnings : List String := []
  /-- Errors to report, if there are any. -/
  validation : Option Causes := none
  deriving DecidableEq, Inhabited

namespace Report

/-- Takes up the causes that validators found; no causes change nothing. -/
def addCauses (causes : Causes) (report : Report) : Report :=
  if causes.isEmpty then report else { report with validation := some causes }

/-- There is nothing to report. -/
def isEmpty (report : Report) : Bool := report.warnings.isEmpty && report.validation.isNone

/-- The reply to a registered or planned job with the report's warnings. -/
def amendJobReply (report : Report) (reply : JobReply) : JobReply :=
  { reply with warnings := combinedWarnings reply.warnings report.warnings }

/-- The reply to a validated job with the report's errors and warnings. -/
def amendValidationReply (report : Report) (reply : ValidationReply) : ValidationReply :=
  let reply := match report.validation with
    | some causes => { reply with validationErrors := some causes.list, error := causes.text }
    | none => reply
  { reply with warnings := combinedWarnings reply.warnings report.warnings }

/-- The document that a plain reply becomes. -/
def amend (report : Report) (body : Bytes) : Decoded Json :=
  match report.route with
  | .register | .plan => (decodeBytes JobReply.decoder body).map fun reply =>
      (report.amendJobReply reply).toJson
  | .validate => (decodeBytes ValidationReply.decoder body).map fun reply =>
      (report.amendValidationReply reply).toJson

/-- The plain reply with the report folded in. -/
def fold (report : Report) (body : Bytes) : Decoded Bytes := (report.amend body).map Json.bytes

end Report
end JobGate
