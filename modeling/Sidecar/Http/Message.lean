import Sidecar.Text.Percent

/-!
HTTP requests and answers, without a connection.
-/

namespace Sidecar.Http

abbrev Headers := List (String × String)

/-- The kelvin sign is the only letter outside of ASCII with one of ASCII as its lower case. -/
def lowerLetter (c : Char) : Char :=
  if 'A' ≤ c ∧ c ≤ 'Z' then Char.ofNat (c.toNat + 32) else if c.toNat = 0x212a then 'k' else c

/-- Names of headers are compared without regard to case. -/
def sameName (a b : String) : Bool := a.toList.map lowerLetter == b.toList.map lowerLetter

namespace Headers

def get? (headers : Headers) (name : String) : Option String :=
  (headers.find? fun (n, _) => sameName n name).map (·.2)

/-- The headers without those of the given names. -/
def without (headers : Headers) (names : List String) : Headers :=
  headers.filter fun (n, _) => !names.any (sameName n)

end Headers

/-- The target is the path with the query. -/
structure Request where
  method : String := "GET"
  target : String
  headers : Headers := []
  body : List UInt8 := []
  deriving DecidableEq, Repr

namespace Request

/-- The path as it was sent. -/
def rawPath (r : Request) : List Char := r.target.toList.takeWhile fun c => c != '?' && c != '#'

/-- The path with its escapes decoded. -/
def path (r : Request) : String := String.ofList (Percent.decode (fun _ => false) r.rawPath)

/-- The path that routes are compared with, in which slashes and percent signs stay escaped. -/
def route (r : Request) : String :=
  String.ofList (Percent.decode (fun c => c == '/' || c == '%') r.rawPath)

end Request

structure Response where
  status : Nat
  contentType : String
  text : String
  /-- The methods that the path takes, where the method is not one of them. -/
  allow : Option (List String) := none
  deriving DecidableEq, Repr

namespace Response

def plain (status : Nat) (text : String) : Response := { status, contentType := "text/plain", text }

def json (status : Nat) (text : String) : Response := { status, contentType := "application/json", text }

def notFound : Response := plain 404 "404: Not Found"

def tooLarge (text : String) : Response := plain 413 text

def methodNotAllowed (methods : List String) : Response :=
  { plain 405 "405: Method Not Allowed" with allow := some methods }

end Response

/-- What the web framework says to a body that it does not take, as it may be too large. It says nothing to
one that it takes. -/
abbrev BodyCheck := List UInt8 → Option String

end Sidecar.Http
