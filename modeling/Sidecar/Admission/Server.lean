import Sidecar.Admission.Review
import Sidecar.Http.Message
import Sidecar.Json.Reader

/-!
The webhook server: it answers reviews that are posted to it, and reports that it is alive. What the web
framework and the codecs do with a request before it is looked at is up to the platform.
-/

namespace Sidecar.Admission

/-- Why bytes are not decoded. -/
inductive DecodeFailure where
  /-- They are no text in the charset. -/
  | malformed
  /-- No charset has the name. -/
  | unknown
  /-- The charset fails in a way of its own. -/
  | failed (message : String)
  deriving DecidableEq, Repr

/-- Why a request is not answered. -/
inductive ServerError where
  | unknownCharset (name : String)
  | charsetFailed (message : String)
  | integerTooLong (digits : Nat)
  | notInjected (error : InjectError)
  | notPrinted (error : Json.PrintError)
  /-- The platform gives up. -/
  | platform (message : String)
  deriving DecidableEq, Repr

def ServerError.message : ServerError → String
  | .unknownCharset name => "unknown encoding: " ++ name
  | .charsetFailed message => message
  | .integerTooLong digits => (Json.ReadError.tooManyDigits digits).message
  | .notInjected error => error.message
  | .notPrinted error => error.message
  | .platform message => message

/-- What a request leads to: the answer, the log, and the patch that the answer holds. -/
structure Exchange where
  response : Http.Response
  log : List LogLine := []
  patch : Option String := none
  deriving DecidableEq, Repr

/-- The answer to an object. An error that the controller does not foresee is not answered. -/
def answerObject (c : InjectionConfig) (es : List (Value × Value)) : Except ServerError Exchange :=
  match mutate c (.map es) with
  | .error e => .error (.notInjected e)
  | .ok answer =>
    match Json.print answer.toValue with
    | .error e => .error (.notPrinted e)
    | .ok text => .ok ⟨.json 200 text, [answer.log], answer.patch?⟩

/-- What the server stands on. -/
structure Platform where
  check : Http.BodyCheck
  /-- The charset that the content type of a request names. -/
  charset : Http.Request → Option String
  decode : String → List UInt8 → Except DecodeFailure (List Char)
  /-- How deep the lists and objects in a body may be nested. -/
  depth : Nat
  /-- What becomes of a body that is deeper, or that has half of a surrogate pair in a text, which is no
  character here. -/
  beyond : Http.Request → Except ServerError Exchange

private def refused (reason : String) : Exchange where
  response := .plain 400 "Failed to unmarshal admission review"
  log := [⟨.error, "Failed to unmarshal admission review: " ++ reason⟩]

namespace Platform

variable (p : Platform)

def limits : Json.Limits := { digits := some Literal.digitLimit, depth := some p.depth }

/-- The text of a body, if its bytes are one. An empty body needs no charset. -/
def bodyText (request : Http.Request) : Except ServerError (Option (List Char)) :=
  if request.body.isEmpty then .ok (some [])
  else
    let name := (p.charset request).getD "utf-8"
    match p.decode name request.body with
    | .ok cs => .ok (some cs)
    | .error .malformed => .ok none
    | .error .unknown => .error (.unknownCharset name)
    | .error (.failed message) => .error (.charsetFailed message)

/-- The answer to a posted review. -/
def handleReview (c : InjectionConfig) (request : Http.Request) : Except ServerError Exchange := do
  match ← p.bodyText request with
  | none => return refused "the body is not in its charset"
  | some cs =>
    match Json.read p.limits cs with
    | .error (.tooManyDigits digits) => throw (.integerTooLong digits)
    | .error .tooDeep | .error .loneSurrogate => p.beyond request
    | .error .malformed => return refused Json.ReadError.malformed.message
    | .ok (.map es) => answerObject c es
    | .ok _ => return refused "body is not an object"

def handle (c : InjectionConfig) (request : Http.Request) : Except ServerError Exchange :=
  if request.route = "/mutate" then
    if request.method = "POST" then
      match p.check request.body with
      | some text => .ok { response := .tooLarge text }
      | none => p.handleReview c request
    else .ok { response := .methodNotAllowed ["POST"] }
  else if request.route = "/health" then
    if request.method = "GET" ∨ request.method = "HEAD" then .ok { response := .plain 200 "OK" }
    else .ok { response := .methodNotAllowed ["GET", "HEAD"] }
  else .ok { response := .notFound }

/-- The results of requests that come one after the other. The server keeps nothing between them. -/
def serve (c : InjectionConfig) (requests : List Http.Request) : List (Except ServerError Exchange) :=
  requests.map (p.handle c)

end Platform

end Sidecar.Admission
