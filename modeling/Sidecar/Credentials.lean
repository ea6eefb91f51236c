import Sidecar.Config.Settings
import Sidecar.Files.Tree
import Sidecar.Log

/-!
The files that containers find in place of the credentials of their service account: the certificate
authority of the proxy, the namespace of the pod, and a token that stands for nothing.
-/

namespace Sidecar

/-- The steps of publishing the files. -/
inductive CredentialStep where
  | authority
  | readNamespace
  | writeNamespace
  | token
  deriving DecidableEq, Repr

def CredentialStep.failure : CredentialStep → String
  | .authority => "failed to write CA certificate: "
  | .readNamespace => "failed to read namespace file: "
  | .writeNamespace => "failed to write namespace file: "
  | .token => "failed to write token file: "

inductive CredentialError where
  | file (step : CredentialStep) (cause : FileError)
  /-- The namespace that is given is no text. -/
  | notText (given : List UInt8)
  deriving DecidableEq, Repr

namespace CredentialError

def step : CredentialError → CredentialStep
  | .file step _ => step
  | .notText _ => .readNamespace

/-- Obstacles are reported under the name of the step; nothing else is foreseen. -/
def isReported : CredentialError → Bool
  | .file _ (.obstructed ..) => true
  | .file _ .nulInPath | .notText _ => false

def message : CredentialError → String
  | .file step (.obstructed obstacle path) => step.failure ++ (FileError.obstructed obstacle path).message
  | .file _ .nulInPath => FileError.nulInPath.message
  | .notText given =>
    let refusal (what : String) := "'utf-8' codec can't encode " ++ what ++ ": surrogates not allowed"
    match Utf8.firstStray given with
    | (index, [b]) => refusal ("character '\\udc" ++ String.ofList (Literal.hex 2 b.toNat) ++ "' in position "
        ++ toString index)
    | (index, stray) => refusal ("characters in position " ++ toString index ++ "-"
        ++ toString (index + stray.length - 1))

end CredentialError

/-- What a step has led to: the files as they are left, and the path that was written. -/
structure Published where
  tree : FileTree
  result : Except CredentialError FilePath
  log : List LogLine := []

/-- Goes on with the next step unless one has failed. -/
def Published.andThen (p : Published) (next : FileTree → Published) : Published :=
  match p.result with
  | .error _ => p
  | .ok _ =>
    let q := next p.tree
    { q with log := p.log ++ q.log }

namespace Credentials

/-- A path below the directory that all credential files lie under. -/
def resolve (s : Settings) (path : String) : FilePath := (FilePath.ofText s.fsRoot).under path

/-- The path of a published file. -/
def target (s : Settings) (name : String) : FilePath :=
  resolve s (s.injection.redirectMountPath ++ "/" ++ name)

/-- Publishes a file, as one of the steps. -/
def publish (step : CredentialStep) (note : String) (p : FilePath) (content : Content)
    (t : FileTree) : Published :=
  match t.publish p content with
  | (t, some e) => ⟨t, .error (.file step e), []⟩
  | (t, none) => ⟨t, .ok p, [⟨.info, note ++ p.text⟩]⟩

def writeAuthority (s : Settings) (content : Content) : FileTree → Published :=
  publish .authority "CA certificate saved to: " (target s "ca.crt") content

/-- The file of the service account that the namespace can be taken from. -/
def namespaceSource (s : Settings) : FilePath := resolve s (s.injection.serviceAccountPath ++ "/namespace")

/-- The namespace that the environment gives, which must be a text, or else that of the service account. -/
def namespaceContent (s : Settings) (given : Option (List UInt8)) (t : FileTree) :
    Except CredentialError Content :=
  match given.filter (· ≠ []) with
  | some bytes => if (Utf8.decode? bytes).isSome then .ok (.bytes bytes) else .error (.notText bytes)
  | none =>
    match t.read (namespaceSource s) with
    | .ok content => .ok content
    | .error e => .error (.file .readNamespace e)

def writeNamespace (s : Settings) (given : Option (List UInt8)) (t : FileTree) : Published :=
  match namespaceContent s given t with
  | .error e => ⟨t, .error e, []⟩
  | .ok content =>
    publish .writeNamespace "Namespace file written to: " (target s "namespace") content t

/-- A single dash: the proxy has the real token. -/
def placeholder : List UInt8 := Utf8.encode "-"

def writeToken (s : Settings) : FileTree → Published :=
  publish .token "Placeholder token file created at: " (target s "token") (.bytes placeholder)

/-- All files, in this order. -/
def publishAll (s : Settings) (given : Option (List UInt8)) (authority : Content) (t : FileTree) :
    Published :=
  ((writeAuthority s authority t).andThen (writeNamespace s given)).andThen (writeToken s)

end Credentials

end Sidecar
