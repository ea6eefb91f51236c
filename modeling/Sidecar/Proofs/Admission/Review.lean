import Sidecar.Admission.Review
import Sidecar.Proofs.Inject.Wellformed
import Sidecar.Proofs.Json.Document
import Sidecar.Proofs.Pod.RoundTrip
import Sidecar.Proofs.Text.Base64
import Sidecar.Proofs.Text.Utf8
import Sidecar.Proofs.Value.Path

/-!
How a review is answered: allowed exactly if the pod can be mutated, with a patch that holds the mutated
spec, and otherwise denied, with a message on the first stage that fails. There is no answer for a pod
whose containers are to be sent to a port that cannot be written.
-/

namespace Sidecar.Admission

/-- The document in a patch that is sent: base 64, UTF-8 and JSON are undone. -/
def readPatch? (s : String) : Option Value := do
  let bytes ← Base64.decode? s.toList
  let text ← Utf8.decode? bytes
  (Json.read { digits := some Literal.digitLimit } text.toList).toOption

/-- The review carries the pod: its request and the object in it are objects, and the latter is read. -/
def Carries (review : Value) (pod : Pod) : Prop :=
  ∃ es, review.at? ["request", "object"] = some (.map es) ∧ (Pod.decode (.map es)).report "Pod" = .ok pod

/-- The stages that a review goes through. -/
inductive Stage where
  | unmarshal
  | inject
  | encode

/-- How the message of a denial starts, by the stage that fails. -/
def Stage.failure : Stage → String
  | .unmarshal => "Failed to unmarshal pod: "
  | .inject => "Failed to inject MCA: "
  | .encode => "Failed to generate JSON patch: "

/-- All stages succeed, with the injected pod and the text of its spec. -/
def Passes (c : InjectionConfig) (review : Value) (injected : Pod) (text : String) : Prop :=
  ∃ pod, Carries review pod ∧ c.inject pod = .ok injected ∧ Json.print injected.spec.toValue = .ok text

/-- The stage fails, and those before it do not. -/
def FailsAt (c : InjectionConfig) (review : Value) : Stage → Prop
  | .unmarshal => ∀ pod, ¬ Carries review pod
  | .inject => ∃ pod e, Carries review pod ∧ c.inject pod = .error e ∧ e.isForeseen = true
  | .encode => ∃ pod injected e, Carries review pod ∧ c.inject pod = .ok injected ∧
      Json.print injected.spec.toValue = .error e

theorem exists_of_map_eq_ok {ε α β : Type} {x : Except ε α} {f : α → β} {b : β} (h : x.map f = .ok b) :
    ∃ a, x = .ok a ∧ f a = b := by
  cases x with
  | error e => nomatch h
  | ok a => exact ⟨a, rfl, Except.ok.inj h⟩

theorem Carries.decode {review : Value} {pod : Pod} (h : Carries review pod) :
    ∃ es, review.at? ["request", "object"] = some (.map es) ∧ Pod.decode (.map es) = .ok pod := by
  obtain ⟨es, hes, hpod⟩ := h
  exact ⟨es, hes, Schema.Checked.report_eq_ok_iff.mp hpod⟩

theorem Carries.eq {review : Value} {pod pod' : Pod} (h : Carries review pod) (h' : Carries review pod') :
    pod = pod' := by
  obtain ⟨es, hes, hpod⟩ := h
  obtain ⟨es', hes', hpod'⟩ := h'
  obtain rfl : es = es' := by simpa [hes] using hes'
  exact Except.ok.inj (hpod.symm.trans hpod')

theorem InjectError.isForeseen_eq_false_iff {e : InjectError} : e.isForeseen = false ↔ e = .portTooLong := by
  cases e <;> simp [InjectError.isForeseen]

/-- A review passes all stages, fails at one of them, or carries a pod that is sent to a port that cannot be
written. -/
theorem passes_or_failsAt_or_unforeseen (c : InjectionConfig) (review : Value) :
    (∃ injected text, Passes c review injected text) ∨ (∃ stage, FailsAt c review stage) ∨
      ∃ pod, Carries review pod ∧ c.inject pod = .error .portTooLong := by
  by_cases hpod : ∃ pod, Carries review pod
  · obtain ⟨pod, hpod⟩ := hpod
    cases hinject : c.inject pod with
    | error e =>
      cases hforeseen : e.isForeseen with
      | true => exact .inr (.inl ⟨.inject, pod, e, hpod, hinject, hforeseen⟩)
      | false =>
        rw [InjectError.isForeseen_eq_false_iff.mp hforeseen] at hinject
        exact .inr (.inr ⟨pod, hpod, hinject⟩)
    | ok injected =>
      cases hprint : Json.print injected.spec.toValue with
      | error e => exact .inr (.inl ⟨.encode, pod, injected, e, hpod, hinject, hprint⟩)
      | ok text => exact .inl ⟨injected, text, pod, hpod, hinject, hprint⟩
  · exact .inr (.inl ⟨.unmarshal, fun pod h => hpod ⟨pod, h⟩⟩)

section Patch

variable {s : PodSpec} {strict : Prop}

theorem patch_isJson (h : s.Wellformed strict True) : (patch s).isJson = true := by
  have hspec := PodSpec.toValue_isJson h
  unfold patch
  rw [Value.isJson_list_iff, List.forall_mem_singleton, Value.isJson_object_iff]
  have hkeys : (["op", "path", "value"] : List String).Nodup := by decide
  refine ⟨hkeys, ?_⟩
  simp only [List.forall_mem_cons, List.not_mem_nil, false_implies, implies_true, and_true]
  exact ⟨rfl, rfl, hspec⟩

/-- A patch has a text if the spec has one. -/
theorem print_patch {text : String} (h : Json.print s.toValue = .ok text) :
    ∃ patched, Json.print (patch s) = .ok patched := by
  simp [patch, Value.object, Json.print, Json.printItems, Json.printEntries, Json.key, h, bind, Except.bind,
    pure, Except.pure]

theorem print_patch_error {e : Json.PrintError} (h : Json.print s.toValue = .error e) :
    Json.print (patch s) = .error e := by
  simp [patch, Value.object, Json.print, Json.printItems, Json.printEntries, Json.key, h, bind, Except.bind]

/-- A patch that is sent holds the patch. -/
theorem readPatch?_encode {text : String} (hs : s.Wellformed strict True)
    (h : Json.print (patch s) = .ok text) :
    readPatch? (Base64.encode (Utf8.encode text)) = some (patch s) := by
  have hlimits : Json.Limits.Ample { digits := some Literal.digitLimit } := ⟨by simp, rfl⟩
  simp [readPatch?, Base64.decode?_encode, Utf8.decode?_encode,
    Json.read_print hlimits (patch_isJson hs) h, Except.toOption]

end Patch

section Answer

variable {c : InjectionConfig} {review : Value}

theorem at?_apiVersion (a : Answer) :
    a.toValue.at? ["apiVersion"] = some (.str "admission.k8s.io/v1") := by
  obtain ⟨uid, verdict⟩ := a
  cases verdict <;> rfl

theorem at?_kind (a : Answer) : a.toValue.at? ["kind"] = some (.str "AdmissionReview") := by
  obtain ⟨uid, verdict⟩ := a
  cases verdict <;> rfl

theorem at?_uid (a : Answer) : a.toValue.at? ["response", "uid"] = some a.uid := by
  obtain ⟨uid, verdict⟩ := a
  cases verdict <;> rfl

theorem at?_of_allowed {a : Answer} {pod : Pod} {text : String} (h : a.verdict = .allowed pod text) :
    a.toValue.at? ["response", "allowed"] = some (.bool true) ∧
    a.toValue.at? ["response", "patchType"] = some (.str "JSONPatch") ∧
    a.toValue.at? ["response", "patch"] = some (.str (Base64.encode (Utf8.encode text))) := by
  obtain ⟨uid, verdict⟩ := a
  obtain rfl : verdict = _ := h
  exact ⟨rfl, rfl, rfl⟩

theorem at?_of_denied {a : Answer} {denial : Denial} (h : a.verdict = .denied denial) :
    a.toValue.at? ["response", "allowed"] = some (.bool false) ∧
    a.toValue.at? ["response", "patch"] = none ∧
    a.toValue.at? ["response", "status", "message"] = some (.str denial.message) := by
  obtain ⟨uid, verdict⟩ := a
  obtain rfl : verdict = _ := h
  exact ⟨rfl, rfl, rfl⟩

theorem mutate_of_object {es : List (Value × Value)} (h : review.field? "request" = some (.map es)) :
    mutate c review = (judge c ((Value.map es).field? "object")).map fun verdict =>
      ⟨((Value.map es).field? "uid").getD (.str ""), verdict⟩ := by
  unfold mutate
  rw [h]
  cases es <;> rfl

/-- A request that is no object is refused, or it is nothing and counts as an empty object. -/
theorem mutate_of_not_object (h : ∀ es, review.field? "request" ≠ some (.map es)) :
    mutate c review = .ok ⟨.str "", .denied .requestNotObject⟩ ∨
      mutate c review = .ok ⟨.str "", .denied .noPod⟩ := by
  unfold mutate
  cases hrequest : review.field? "request" with
  | none => exact .inr rfl
  | some request =>
    rw [Option.getD_some]
    dsimp only
    by_cases htruthy : request.isTruthy = true
    · rw [if_pos htruthy]
      cases request with
      | map es => exact absurd hrequest (h es)
      | _ => exact .inl rfl
    · rw [if_neg htruthy]
      exact .inr rfl

theorem at?_request_of_not_object (h : ∀ es, review.field? "request" ≠ some (.map es)) (name : String) :
    review.at? ["request", name] = none := by
  rw [Value.at?]
  cases hrequest : review.field? "request" with
  | none => rfl
  | some request =>
    cases request with
    | map es => exact absurd hrequest (h es)
    | _ => rfl

theorem at?_request_of_object {es : List (Value × Value)} (h : review.field? "request" = some (.map es))
    (name : String) : review.at? ["request", name] = (Value.map es).field? name := by
  rw [Value.at?, h, Option.bind_some, Value.at?]
  cases (Value.map es).field? name <;> rfl

/-- The answer has the identifier of the request, if there is one. -/
theorem mutate_uid {answer : Answer} (h : mutate c review = .ok answer) :
    answer.uid = (review.at? ["request", "uid"]).getD (.str "") := by
  by_cases hobject : ∃ es, review.field? "request" = some (.map es)
  · obtain ⟨es, hes⟩ := hobject
    rw [mutate_of_object hes] at h
    obtain ⟨verdict, -, rfl⟩ := exists_of_map_eq_ok h
    rw [at?_request_of_object hes]
  · have hno := not_exists.mp hobject
    rw [at?_request_of_not_object hno]
    rcases mutate_of_not_object (c := c) hno with hanswer | hanswer <;> rw [hanswer] at h <;>
      obtain rfl := Except.ok.inj h <;> rfl

/-- The verdict is on the object of the request. -/
theorem mutate_verdict {object : Value} (h : review.at? ["request", "object"] = some object) :
    (mutate c review).map Answer.verdict = judge c (some object) := by
  by_cases hobject : ∃ es, review.field? "request" = some (.map es)
  · obtain ⟨es, hes⟩ := hobject
    rw [at?_request_of_object hes] at h
    rw [mutate_of_object hes, h]
    cases judge c (some object) <;> rfl
  · rw [at?_request_of_not_object (not_exists.mp hobject)] at h
    nomatch h

/-- A review with a pod is answered by the stage that it comes to. -/
theorem mutate_of_carries {pod : Pod} (h : Carries review pod) : (mutate c review).map Answer.verdict =
    match c.inject pod with
    | .error e => if e.isForeseen then .ok (.denied (.notInjected e)) else .error e
    | .ok injected =>
      match Json.print (patch injected.spec) with
      | .error e => .ok (.denied (.notPatched e))
      | .ok text => .ok (.allowed pod text) := by
  obtain ⟨os, hos, hpod⟩ := h
  rw [mutate_verdict hos]
  cases hinject : c.inject pod with
  | error e => simp [judge, hpod, hinject]
  | ok injected =>
    cases hprint : Json.print (patch injected.spec) <;> simp [judge, hpod, hinject, hprint]

theorem exists_answer {verdict : Verdict} (h : (mutate c review).map Answer.verdict = .ok verdict) :
    ∃ answer, mutate c review = .ok answer ∧ answer.verdict = verdict :=
  exists_of_map_eq_ok h

/-- A review without a pod is denied, and the message says that the pod is missing or wrong. -/
theorem mutate_of_not_carries (h : ∀ pod, ¬ Carries review pod) :
    ∃ answer denial reason, mutate c review = .ok answer ∧ answer.verdict = .denied denial ∧
      denial.message = Stage.unmarshal.failure ++ reason := by
  by_cases hobject : ∃ es, review.field? "request" = some (.map es)
  · obtain ⟨es, hes⟩ := hobject
    rw [mutate_of_object hes]
    have hat := at?_request_of_object hes "object"
    cases hos : (Value.map es).field? "object" with
    | none => exact ⟨_, .noPod, "admission request carries no pod object", rfl, rfl, rfl⟩
    | some object =>
      rw [hos] at hat
      cases object with
      | map os =>
        cases hreport : (Pod.decode (.map os)).report "Pod" with
        | ok pod => exact absurd ⟨os, hat, hreport⟩ (h pod)
        | error report =>
          refine ⟨⟨((Value.map es).field? "uid").getD (.str ""), .denied (.notPod report)⟩,
            .notPod report, report.text, ?_, rfl, rfl⟩
          rw [judge, hreport]
          rfl
      | _ => exact ⟨_, .noPod, "admission request carries no pod object", rfl, rfl, rfl⟩
  · rcases mutate_of_not_object (c := c) (not_exists.mp hobject) with h | h
    · exact ⟨_, .requestNotObject, "admission request is not an object", h, rfl, rfl⟩
    · exact ⟨_, .noPod, "admission request carries no pod object", h, rfl, rfl⟩

theorem mutate_of_inject_error {pod : Pod} {e : InjectError} (hpod : Carries review pod)
    (h : c.inject pod = .error e) (hforeseen : e.isForeseen = true) :
    ∃ answer, mutate c review = .ok answer ∧ answer.verdict = .denied (.notInjected e) := by
  apply exists_answer
  rw [mutate_of_carries hpod, h]
  exact if_pos hforeseen

theorem mutate_of_print_error {pod injected : Pod} {e : Json.PrintError} (hpod : Carries review pod)
    (hinject : c.inject pod = .ok injected) (h : Json.print injected.spec.toValue = .error e) :
    ∃ answer, mutate c review = .ok answer ∧ answer.verdict = .denied (.notPatched e) := by
  apply exists_answer
  rw [mutate_of_carries hpod, hinject]
  simp only [print_patch_error h]

theorem mutate_of_passes {injected : Pod} {text : String} (h : Passes c review injected text) :
    ∃ answer pod patched, Carries review pod ∧ c.inject pod = .ok injected ∧
      Json.print (patch injected.spec) = .ok patched ∧
      mutate c review = .ok answer ∧ answer.verdict = .allowed pod patched := by
  obtain ⟨pod, hpod, hinject, hprint⟩ := h
  obtain ⟨patched, hpatched⟩ := print_patch hprint
  have hverdict : (mutate c review).map Answer.verdict = .ok (.allowed pod patched) := by
    rw [mutate_of_carries hpod, hinject]
    simp only [hpatched]
  obtain ⟨answer, hanswer, hallowed⟩ := exists_answer hverdict
  exact ⟨answer, pod, patched, hpod, hinject, hpatched, hanswer, hallowed⟩

/-- The stage that fails is the one that the message names. -/
theorem mutate_of_failsAt {stage : Stage} (h : FailsAt c review stage) :
    ∃ answer denial reason, mutate c review = .ok answer ∧ answer.verdict = .denied denial ∧
      denial.message = stage.failure ++ reason := by
  cases stage with
  | unmarshal => exact mutate_of_not_carries h
  | inject =>
    obtain ⟨pod, e, hpod, he, hforeseen⟩ := h
    obtain ⟨answer, hanswer, hdenied⟩ := mutate_of_inject_error hpod he hforeseen
    exact ⟨answer, _, e.message, hanswer, hdenied, rfl⟩
  | encode =>
    obtain ⟨pod, injected, e, hpod, hinject, he⟩ := h
    obtain ⟨answer, hanswer, hdenied⟩ := mutate_of_print_error hpod hinject he
    exact ⟨answer, _, e.message, hanswer, hdenied, rfl⟩

theorem mutate_of_unforeseen {pod : Pod} (hpod : Carries review pod)
    (h : c.inject pod = .error .portTooLong) : mutate c review = .error .portTooLong := by
  have hverdict := mutate_of_carries (c := c) hpod
  rw [h] at hverdict
  cases hmutate : mutate c review with
  | error e =>
    rw [hmutate] at hverdict
    simpa [Except.map, InjectError.isForeseen] using hverdict
  | ok answer => simp [hmutate, Except.map, InjectError.isForeseen] at hverdict

/-- The only reason for which a review gets no answer. -/
theorem exists_mutate_iff : (∃ answer, mutate c review = .ok answer) ↔
    ∀ pod, Carries review pod → c.inject pod ≠ .error .portTooLong := by
  constructor
  · rintro ⟨answer, hanswer⟩ pod hpod hinject
    rw [mutate_of_unforeseen hpod hinject] at hanswer
    nomatch hanswer
  · intro hforeseen
    rcases passes_or_failsAt_or_unforeseen c review with ⟨_, _, hpasses⟩ | ⟨_, hfails⟩ | ⟨pod, hpod, hport⟩
    · obtain ⟨answer, -, -, -, -, -, hanswer, -⟩ := mutate_of_passes hpasses
      exact ⟨answer, hanswer⟩
    · obtain ⟨answer, -, -, hanswer, -⟩ := mutate_of_failsAt hfails
      exact ⟨answer, hanswer⟩
    · exact absurd hport (hforeseen pod hpod)

section Answered

variable {answer : Answer}

theorem passes_or_failsAt (h : mutate c review = .ok answer) :
    (∃ injected text, Passes c review injected text) ∨ ∃ stage, FailsAt c review stage := by
  rcases passes_or_failsAt_or_unforeseen c review with hpasses | hfails | ⟨pod, hpod, hport⟩
  · exact .inl hpasses
  · exact .inr hfails
  · exact absurd hport (exists_mutate_iff.mp ⟨answer, h⟩ pod hpod)

theorem denied_of_failsAt (h : mutate c review = .ok answer) {stage : Stage}
    (hstage : FailsAt c review stage) :
    answer.toValue.at? ["response", "allowed"] = some (.bool false) ∧
    answer.toValue.at? ["response", "patch"] = none ∧
    ∃ reason, answer.toValue.at? ["response", "status", "message"] =
      some (.str (stage.failure ++ reason)) := by
  obtain ⟨answer', denial, reason, hanswer, hdenial, hmessage⟩ := mutate_of_failsAt hstage
  obtain rfl : answer = answer' := Except.ok.inj (h.symm.trans hanswer)
  obtain ⟨hallowed, hpatch, hstatus⟩ := at?_of_denied hdenial
  exact ⟨hallowed, hpatch, reason, by rw [← hmessage]; exact hstatus⟩

theorem allowed_of_passes (h : mutate c review = .ok answer) {injected : Pod} {text : String}
    (hpasses : Passes c review injected text) :
    ∃ pod patched, Carries review pod ∧ c.inject pod = .ok injected ∧
      Json.print (patch injected.spec) = .ok patched ∧ answer.verdict = .allowed pod patched := by
  obtain ⟨answer', pod, patched, hpod, hinject, hprint, hanswer, hverdict⟩ := mutate_of_passes hpasses
  obtain rfl : answer = answer' := Except.ok.inj (h.symm.trans hanswer)
  exact ⟨pod, patched, hpod, hinject, hprint, hverdict⟩

theorem allowed_iff_passes (h : mutate c review = .ok answer) :
    answer.toValue.at? ["response", "allowed"] = some (.bool true) ↔
      ∃ injected text, Passes c review injected text := by
  constructor
  · intro hallowed
    rcases passes_or_failsAt h with hpasses | ⟨stage, hstage⟩
    · exact hpasses
    · rw [(denied_of_failsAt h hstage).1] at hallowed
      simp at hallowed
  · rintro ⟨injected, text, hpasses⟩
    obtain ⟨pod, patched, -, -, -, hverdict⟩ := allowed_of_passes h hpasses
    exact (at?_of_allowed hverdict).1

end Answered

theorem Carries.wellformed {pod : Pod} (hreview : review.isJson = true) (h : Carries review pod) :
    pod.Wellformed False True := by
  obtain ⟨os, hos, hpod⟩ := h.decode
  exact Pod.reads (.map os) pod False.elim (fun _ => Value.isJson_of_at? hreview hos) hpod

end Answer

/-- What is promised of the answer to a review. It is allowed exactly if its pod is read, injected and
encoded, and then the patch holds the spec of the injected pod; otherwise the answer has no patch, and a
message that starts with the stage that fails. -/
structure FailsClosed (c : InjectionConfig) (review answer : Value) : Prop where
  apiVersion : answer.at? ["apiVersion"] = some (.str "admission.k8s.io/v1")
  kind : answer.at? ["kind"] = some (.str "AdmissionReview")
  uid : answer.at? ["response", "uid"] = some ((review.at? ["request", "uid"]).getD (.str ""))
  allowed_iff : answer.at? ["response", "allowed"] = some (.bool true) ↔
    ∃ injected text, Passes c review injected text
  patched : ∀ injected text, Passes c review injected text →
    answer.at? ["response", "patchType"] = some (.str "JSONPatch") ∧
    ∃ encoded, answer.at? ["response", "patch"] = some (.str encoded) ∧
      readPatch? encoded = some (.list [.object [
        ("op", .str "replace"), ("path", .str "/spec"), ("value", injected.spec.toValue)]])
  decided : (∃ injected text, Passes c review injected text) ∨ ∃ stage, FailsAt c review stage
  denied : ∀ stage, FailsAt c review stage →
    answer.at? ["response", "allowed"] = some (.bool false) ∧
    answer.at? ["response", "patch"] = none ∧
    ∃ reason, answer.at? ["response", "status", "message"] = some (.str (stage.failure ++ reason))

theorem failsClosed_of_mutate {c : InjectionConfig} {review : Value} {answer : Answer}
    (hreview : review.isJson = true) (h : mutate c review = .ok answer) :
    FailsClosed c review answer.toValue where
  apiVersion := at?_apiVersion answer
  kind := at?_kind answer
  uid := by rw [at?_uid, mutate_uid h]
  allowed_iff := allowed_iff_passes h
  patched := by
    intro injected text hpasses
    obtain ⟨pod, patched, hpod, hinject, hprint, hverdict⟩ := allowed_of_passes h hpasses
    obtain ⟨-, htype, hpatch⟩ := at?_of_allowed hverdict
    have hinjected := InjectionConfig.inject_wellformed hinject (hpod.wellformed hreview)
    exact ⟨htype, _, hpatch, readPatch?_encode hinjected.spec hprint⟩
  decided := passes_or_failsAt h
  denied := fun _ => denied_of_failsAt h

/-- A review gets the answer that is promised, unless the pod that it carries is refused because its
containers would be given a port that cannot be written. -/
theorem mutate_fails_closed_iff (c : InjectionConfig) {es : List (Value × Value)}
    (hreview : (Value.map es).isJson = true) :
    (∃ answer, mutate c (.map es) = .ok answer ∧ FailsClosed c (.map es) answer.toValue) ↔
      ∀ pod, Carries (.map es) pod → c.inject pod ≠ .error .portTooLong := by
  rw [← exists_mutate_iff]
  constructor
  · rintro ⟨answer, hanswer, -⟩
    exact ⟨answer, hanswer⟩
  · rintro ⟨answer, hanswer⟩
    exact ⟨answer, hanswer, failsClosed_of_mutate hreview hanswer⟩

/-- A pod that has a number, an entry that is null and a text with an escape. -/
def sampleObject : Value := .object [
  ("metadata", .object [("name", .str "pod")]),
  ("spec", .object [
    ("containers", .list [.object [
      ("name", .str "app"),
      ("weight", .float (.finite false 4607182418800017408)),
      ("note", .str "a \"b\""),
      ("hint", .null)]]),
    ("priority", .int (-5))])]

def sampleReview : Value :=
  .object [("request", .object [("uid", .str "705ab4f5"), ("object", sampleObject)])]

theorem mutate_fails_closed_sample : sampleReview.isJson = true ∧
    ∃ answer injected text encoded, mutate { proxyImage := "registry/mca:1" } sampleReview = .ok answer ∧
      Passes { proxyImage := "registry/mca:1" } sampleReview injected text ∧
      answer.toValue.at? ["response", "patch"] = some (.str encoded) ∧
      readPatch? encoded = some (.list [.object [
        ("op", .str "replace"), ("path", .str "/spec"), ("value", injected.spec.toValue)]]) := by
  have hjson : sampleReview.isJson = true := by decide +kernel
  have hport (pod : Pod) : InjectionConfig.inject { proxyImage := "registry/mca:1" } pod ≠
      .error .portTooLong := InjectionConfig.inject_ne_portTooLong (by decide)
  obtain ⟨answer, hanswer, hclosed⟩ : ∃ answer,
      mutate { proxyImage := "registry/mca:1" } sampleReview = .ok answer ∧
        FailsClosed { proxyImage := "registry/mca:1" } sampleReview answer.toValue :=
    (mutate_fails_closed_iff { proxyImage := "registry/mca:1" } hjson).mpr fun pod _ => hport pod
  have hallowed : ((mutate { proxyImage := "registry/mca:1" } sampleReview).map fun answer =>
      answer.toValue.at? ["response", "allowed"]) = .ok (some (.bool true)) := by decide +kernel
  rw [hanswer] at hallowed
  obtain ⟨injected, text, hpasses⟩ := hclosed.allowed_iff.mp (Except.ok.inj hallowed)
  obtain ⟨-, encoded, hencoded, hread⟩ := hclosed.patched injected text hpasses
  exact ⟨hjson, answer, injected, text, encoded, hanswer, hpasses, hencoded, hread⟩

/-- The first port with too many digits. -/
theorem mutate_unanswered_of_port : sampleReview.isJson = true ∧
    ¬∃ answer, mutate { proxyImage := "registry/mca:1", servicePort := 10 ^ 4300 } sampleReview =
      .ok answer := by
  have hjson : sampleReview.isJson = true := by decide +kernel
  have hraises : mutate { proxyImage := "registry/mca:1", servicePort := 10 ^ 4300 } sampleReview =
      .error .portTooLong := by decide +kernel
  refine ⟨hjson, ?_⟩
  rintro ⟨answer, hanswer⟩
  rw [hraises] at hanswer
  nomatch hanswer

end Sidecar.Admission
