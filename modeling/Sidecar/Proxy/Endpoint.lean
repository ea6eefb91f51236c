import Sidecar.Cluster.Access
import Sidecar.Proxy.Relay

/-!
The proxy of one API server, over the requests of a run and the changes of its token in between.
-/

namespace Sidecar.Proxy

/-- The API server that a proxy stands in front of. -/
structure Endpoint where
  baseUrl : String
  verification : Verification := .standard
  deriving DecidableEq, Repr

def Endpoint.ofAccess (t : FileTree) (c : ClusterAccess) : Except TrustError Endpoint := do
  return ⟨withoutFinalSlashes c.host, ← c.verification t⟩

/-- How the proxy keeps its connections to the API server: a request may take as long as it likes, so
that watches stay open, and bodies are passed on as they are encoded. -/
structure ClientOptions where
  totalTimeout : Option Nat := none
  connectTimeout : Nat := 30
  decompress : Bool := false
  deriving DecidableEq, Repr

def clientOptions : ClientOptions := {}

/-- What happens to a proxy. -/
inductive Event where
  /-- A request of a client, with the answer that the API server has for it. -/
  | request (r : Http.Request) (reply : Reply)
  /-- The token is another one from now on. -/
  | rotate (token : Option String)
  deriving DecidableEq, Repr

/-- What a request leads to. -/
structure Exchange where
  sent : Option Outbound
  answer : Answer
  log : List LogLine
  deriving DecidableEq, Repr

/-- Every path is passed on, as long as it is one and holds no line break. -/
def isRouted (r : Http.Request) : Bool :=
  r.route.toList.head? = some '/' && !r.route.toList.contains '\n'

/-- A body is taken as a whole before anything is sent, and the request ends if it is not. -/
def handle (check : Http.BodyCheck) (e : Endpoint) (token : Option String) (r : Http.Request)
    (reply : Reply) : Exchange :=
  if isRouted r then
    let entry : LogLine := ⟨.info, r.method ++ " " ++ r.path⟩
    match check r.body with
    | some text => ⟨none, .own (.tooLarge text), [entry]⟩
    | none =>
      let (answer, log) := relay r reply
      ⟨some (forward e.baseUrl token r), answer, entry :: log⟩
  else ⟨none, .own .notFound, []⟩

/-- The exchanges of a run, each with the token that is current at its time. -/
def run (check : Http.BodyCheck) (e : Endpoint) : Option String → List Event → List Exchange
  | _, [] => []
  | token, .request r reply :: rest =>
    handle check e token r reply :: run check e token rest
  | _, .rotate token :: rest => run check e token rest

end Sidecar.Proxy
