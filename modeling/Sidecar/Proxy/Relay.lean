import Sidecar.Http.Reason
import Sidecar.Json.Printer
import Sidecar.Log
import Sidecar.Proxy.Forward

/-!
The way of an answer from the API server back to the client. The body is passed on piece by piece, so
that a watch can stay open; once the head is out, a failure can only end the stream.
-/

namespace Sidecar.Proxy

/-- Why an exchange with the API server breaks off. -/
inductive Failure where
  /-- The connection has failed or timed out. -/
  | transport (reason : String)
  /-- Any other error, with its kind; it is not answered. -/
  | internal (kind reason : String)
  deriving DecidableEq, Repr

structure Head where
  status : Nat := 200
  /-- None stands for the phrase of the status. -/
  reason : Option String := none
  headers : Http.Headers := []
  deriving DecidableEq, Repr

/-- What arrives after the head. -/
inductive BodyEvent where
  | chunk (bytes : List UInt8)
  | failed (failure : Failure)
  deriving DecidableEq, Repr

/-- How the API server answers. A body that does not fail is ended by the server. -/
inductive Reply where
  | failed (failure : Failure)
  | answered (head : Head) (body : List BodyEvent)
  deriving DecidableEq, Repr

/-- Why a request gets no complete answer. -/
inductive Abort where
  | internal (kind reason : String)
  | reasonHasLineBreak
  deriving DecidableEq, Repr

def Abort.message : Abort → String
  | .internal _ reason => reason
  | .reasonHasLineBreak => "Reason cannot contain \\r or \\n"

/-- The head that the client gets. -/
structure SentHead where
  status : Nat
  reason : String
  headers : Http.Headers
  deriving DecidableEq, Repr

inductive Answer where
  /-- An answer of the API server that is passed on, and whether it has come to its end. -/
  | streamed (head : SentHead) (chunks : List (List UInt8)) (finished : Bool)
  /-- An answer of the proxy itself. -/
  | own (response : Http.Response)
  | aborted (cause : Abort)
  deriving DecidableEq, Repr

/-- The head that is passed on. The length is not, as the body is sent in chunks. -/
def relayHead? (head : Head) : Option SentHead :=
  let reason := head.reason.getD (Http.phrase head.status)
  if reason.toList.any fun c => c == '\r' || c == '\n' then none
  else some ⟨head.status, reason, head.headers.without (hopByHop ++ ["content-length"])⟩

/-- The document that tells of a failure. -/
def failureDocument (reason : String) : Value := .object [
  ("kind", .str "Status"), ("apiVersion", .str "v1"), ("status", .str "Failure"),
  ("message", .str ("upstream unavailable: " ++ reason))]

theorem print_failureDocument (reason : String) :
    ∃ text, Json.print (failureDocument reason) = .ok text := by
  simp [failureDocument, Value.object, Json.print, Json.printEntries, Json.key, bind, Except.bind, pure,
    Except.pure]

def unavailable (reason : String) : Http.Response :=
  .json 502 (match Json.print (failureDocument reason) with
    | .ok text => text
    | .error e => e.message)

/-- How far an answer has come when something fails. -/
inductive Progress where
  /-- Nothing of it is out. -/
  | pending
  /-- The head is out, and these chunks. -/
  | streaming (head : SentHead) (chunks : List (List UInt8))
  deriving DecidableEq, Repr

/-- How an exchange ends that fails, with what is written to the log. Only while nothing is out can the proxy
answer by itself. -/
def Progress.fail (r : Http.Request) : Progress → Failure → Answer × List LogLine
  | .pending, .transport reason => (.own (unavailable reason),
      [⟨.error, "Proxy error for " ++ r.method ++ " " ++ r.path ++ ": " ++ reason⟩])
  | .streaming head chunks, .transport reason => (.streamed head chunks false,
      [⟨.warning, "Upstream stream for " ++ r.method ++ " " ++ r.path ++ " ended early: " ++ reason⟩])
  | _, .internal kind reason => (.aborted (.internal kind reason), [])

/-- Passes the body on as it comes, after the chunks that are out. -/
def relayBody (r : Http.Request) (head : SentHead) (chunks : List (List UInt8)) :
    List BodyEvent → Answer × List LogLine
  | [] => (.streamed head chunks true, [])
  | .chunk bytes :: rest => relayBody r head (chunks ++ [bytes]) rest
  | .failed failure :: _ => (Progress.streaming head chunks).fail r failure

/-- The answer that the client of a request gets, with what is written to the log on the way. -/
def relay (r : Http.Request) : Reply → Answer × List LogLine
  | .failed failure => Progress.pending.fail r failure
  | .answered head body =>
    match relayHead? head with
    | none => (.aborted .reasonHasLineBreak, [])
    | some sent => relayBody r sent [] body

end Sidecar.Proxy
