import Sidecar.Http.Message

/-!
The form in which requests of pods go on to the API server: without the client's credentials, and with
those of the proxy.
-/

namespace Sidecar.Proxy

/-- Headers that concern a single connection and are not passed on. -/
def hopByHop : List String := [
  "connection", "keep-alive", "proxy-authenticate", "proxy-authorization", "te", "trailer", "trailers",
  "transfer-encoding", "upgrade"]

/-- The headers of a request that are not passed on. -/
def withheld : List String := hopByHop ++ ["authorization", "host"]

/-- The headers that are passed on. An empty token is none. -/
def forwardHeaders (token : Option String) (headers : Http.Headers) : Http.Headers :=
  headers.without withheld ++ ((token.filter (· ≠ "")).map fun t => ("Authorization", t)).toList

/-- A request as the API server gets it. -/
structure Outbound where
  method : String
  url : String
  headers : Http.Headers
  body : Option (List UInt8)
  deriving DecidableEq, Repr

/-- Redirects of the API server are answers like others, and left to the client. -/
def followsRedirects : Bool := false

/-- An empty body counts as none. -/
def forward (baseUrl : String) (token : Option String) (r : Http.Request) : Outbound where
  method := r.method
  url := baseUrl ++ r.target
  headers := forwardHeaders token r.headers
  body := if r.body.isEmpty then none else some r.body

end Sidecar.Proxy
