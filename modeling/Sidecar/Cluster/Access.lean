import Sidecar.Files.Tree

/-!
How an API server is reached: its address, whom to trust, and which credentials to present.
-/

namespace Sidecar

/-- An address without the slashes at its end, so that paths can follow it. -/
def withoutFinalSlashes (s : String) : String :=
  String.ofList (s.toList.reverse.dropWhile (· == '/')).reverse

structure ClusterAccess where
  host : String
  verifyTls : Bool := true
  /-- The file of the authorities that are trusted; those of the system if there is none. -/
  authorityFile : Option String := none
  certificateFile : Option String := none
  keyFile : Option String := none
  apiKeys : List (String × String) := []
  apiKeyPrefixes : List (String × String) := []
  deriving DecidableEq, Repr

namespace ClusterAccess

/-- The name that the key for the `Authorization` header has. -/
def authorizationKey : String := "authorization"

/-- The value of the `Authorization` header. An empty key is none. -/
def authorization (c : ClusterAccess) : Option String :=
  ((c.apiKeys.lookup authorizationKey).filter (· ≠ "")).map fun key =>
    match (c.apiKeyPrefixes.lookup authorizationKey).filter (· ≠ "") with
    | some scheme => scheme ++ " " ++ key
    | none => key

/-- The access after a new key has been issued. -/
def withKey (c : ClusterAccess) (key : String) : ClusterAccess :=
  { c with apiKeys := (authorizationKey, key) :: c.apiKeys }

end ClusterAccess

/-- How the certificate of a server is checked. -/
inductive Verification where
  | none
  /-- By the default rules of the client. -/
  | standard
  /-- Against the given authorities, or those of the system. -/
  | authorities (trusted : Option (List Certificate))
  deriving DecidableEq, Repr

/-- Why the files of an access cannot be used. -/
inductive TrustError where
  | file (obstacle : Obstacle)
  | noCertificate
  deriving DecidableEq, Repr

def TrustError.message : TrustError → String
  | .file obstacle => obstacle.message
  | .noCertificate => "[X509: NO_CERTIFICATE_OR_CRL_FOUND] no certificate or crl found"

namespace ClusterAccess

private def nonEmpty (path : Option String) : Option String := path.filter (· ≠ "")

private def loadCertificate (t : FileTree) (path : String) : Except TrustError Certificate :=
  match t.readFile (.asGiven path) with
  | .error obstacle => .error (.file obstacle)
  | .ok (.certificate c) => .ok c
  | .ok (.bytes _) => .error .noCertificate

private def checkFile (t : FileTree) (path : String) : Except TrustError Unit :=
  match t.readFile (.asGiven path) with
  | .error obstacle => .error (.file obstacle)
  | .ok _ => .ok ()

/-- Loads the files of an access. Where nothing is verified, none is needed. -/
def verification (c : ClusterAccess) (t : FileTree) : Except TrustError Verification := do
  if !c.verifyTls then return .none
  let trusted ← (nonEmpty c.authorityFile).mapM (loadCertificate t)
  match nonEmpty c.certificateFile with
  | some path =>
    let _ ← loadCertificate t path
    (nonEmpty c.keyFile).forM (checkFile t)
  | none => pure ()
  return .authorities (trusted.map ([·]))

end ClusterAccess

end Sidecar
