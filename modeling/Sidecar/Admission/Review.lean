import Sidecar.Inject.Basic
import Sidecar.Json.Printer
import Sidecar.Log
import Sidecar.Pod.Encode
import Sidecar.Text.Base64
import Sidecar.Text.Utf8

/-!
Admission reviews: each is answered, either with a patch that replaces the pod's spec by that of the
injected pod, or with a denial. Only an error that nobody foresaw leaves a review without an answer.
-/

namespace Sidecar.Admission

/-- Why a review is denied, by the stage that fails. -/
inductive Denial where
  | requestNotObject
  | noPod
  | notPod (report : Schema.Report)
  | notInjected (error : InjectError)
  | notPatched (error : Json.PrintError)
  deriving DecidableEq, Repr

def Denial.message : Denial → String
  | .requestNotObject => "Failed to unmarshal pod: admission request is not an object"
  | .noPod => "Failed to unmarshal pod: admission request carries no pod object"
  | .notPod report => "Failed to unmarshal pod: " ++ report.text
  | .notInjected error => "Failed to inject MCA: " ++ error.message
  | .notPatched error => "Failed to generate JSON patch: " ++ error.message

inductive Verdict where
  /-- The patch is given by its text; the pod is the one that was sent. -/
  | allowed (pod : Pod) (patch : String)
  | denied (denial : Denial)
  deriving DecidableEq, Repr

structure Answer where
  uid : Value
  verdict : Verdict
  deriving DecidableEq, Repr

/-- The patch that replaces the spec of a pod. -/
def patch (spec : PodSpec) : Value :=
  .list [.object [("op", .str "replace"), ("path", .str "/spec"), ("value", spec.toValue)]]

def judge (c : InjectionConfig) (object : Option Value) : Except InjectError Verdict :=
  match object with
  | some (.map es) =>
    match (Pod.decode (.map es)).report "Pod" with
    | .error report => .ok (.denied (.notPod report))
    | .ok pod =>
      match c.inject pod with
      | .error e => if e.isForeseen then .ok (.denied (.notInjected e)) else .error e
      | .ok injected =>
        match Json.print (patch injected.spec) with
        | .error e => .ok (.denied (.notPatched e))
        | .ok text => .ok (.allowed pod text)
  | _ => .ok (.denied .noPod)

/-- The answer to a review. A request that is null or otherwise nothing counts as an empty one. -/
def mutate (c : InjectionConfig) (review : Value) : Except InjectError Answer :=
  let request := (review.field? "request").getD .null
  let request := if request.isTruthy then request else .map []
  match request with
  | .map es => (judge c ((Value.map es).field? "object")).map fun verdict =>
      ⟨(request.field? "uid").getD (.str ""), verdict⟩
  | _ => .ok ⟨.str "", .denied .requestNotObject⟩

namespace Answer

private def envelope (response : List (String × Value)) : Value := .object [
  ("apiVersion", .str "admission.k8s.io/v1"),
  ("kind", .str "AdmissionReview"),
  ("response", .object response)]

/-- The answer as it is sent, with the patch in base 64. -/
def toValue (a : Answer) : Value :=
  match a.verdict with
  | .allowed _ patch => envelope [
      ("uid", a.uid),
      ("allowed", .bool true),
      ("patchType", .str "JSONPatch"),
      ("patch", .str (Base64.encode (Utf8.encode patch)))]
  | .denied denial => envelope [
      ("uid", a.uid),
      ("allowed", .bool false),
      ("status", .object [("message", .str denial.message)])]

def patch? (a : Answer) : Option String :=
  match a.verdict with
  | .allowed _ patch => some patch
  | .denied _ => none

def log (a : Answer) : LogLine :=
  match a.verdict with
  | .allowed pod _ =>
    let name (s : Option String) : String := s.getD "None"
    ⟨.info, "Applied MCA injection to pod " ++ name pod.metadata.namespaceName ++ "/"
      ++ name pod.metadata.name⟩
  | .denied denial => ⟨.error, denial.message⟩

end Answer

end Sidecar.Admission
