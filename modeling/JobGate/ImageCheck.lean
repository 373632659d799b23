import JobGate.Webhook

/-!
# Checking images

The images that the docker tasks of a job name are shown to a verifier one after another, up to
the first that it rejects. A rejection is a warning; the job is never refused for it.
-/
namespace JobGate

/-- Accepts an image reference, or fails. -/
structure Verifier (σ : Type) where
  verify : String → σ → Except Failure Unit × σ

/-- The driver whose tasks run images. -/
def imageDriver : String := "docker"

/-- The images that the docker tasks of a job name, in document order. -/
def Job.images (job : Job) : List String :=
  (job.tasks.filter fun task => task.driver? = some imageDriver).filterMap Task.image?

variable {σ : Type}

/-- Verifies images in order and gives the first failure. -/
def Verifier.firstRejection (verifier : Verifier σ) :
    List String → σ → Option Failure × σ
  | [], s => (none, s)
  | image :: rest, s =>
    match verifier.verify image s with
    | (.ok (), s) => firstRejection verifier rest s
    | (.error failure, s) => (some failure, s)

/-- Warns about the first image of a job that the verifier rejects. -/
def imageCheck (name : String) (resolvesToken : Bool) (verifier : Verifier σ) :
    Validator σ where
  name
  resolvesToken
  validate payload s :=
    match verifier.firstRejection payload.job.images s with
    | (none, s) => (.ok Verdict.clean, s)
    | (some failure, s) => (.ok ⟨[failure.fullText], Causes.none⟩, s)

/-- The document that asks about an image. -/
def imageQuestion (image : String) : Json := .object [("reference", .string image)]

/-- What the reply of a remote verifier says about an image: success accepts it, whatever the body,
and anything else rejects it with the body as the reason. -/
def Reply.imageAnswer (image : String) (reply : Reply) : Except Failure Unit :=
  if isSuccess reply.status then .ok ()
  else if !reply.complete then .error (Failure.ofChain bodyCutChain)
  else .error <| .plain
    ("image " ++ image ++ " failed verification (" ++ statusText reply.status ++ "): "
      ++ trimmed (Utf8.decodeLossy reply.body)) []

/-- The failure that a failed request is. -/
def TransportError.asFailure (e : TransportError) : Failure := Failure.ofChain e.chain

/-- A verifier behind an endpoint. -/
def Verifier.overNetwork (net : Network σ) (endpoint : Endpoint) : Verifier σ where
  verify image s :=
    match net.ask .consult (endpoint.request [] (imageQuestion image)) s with
    | (.error e, s) => (.error e.asFailure, s)
    | (.ok reply, s) => (reply.imageAnswer image, s)

end JobGate
