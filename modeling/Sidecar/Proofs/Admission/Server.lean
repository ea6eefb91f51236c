import Sidecar.Admission.Server
import Sidecar.Proofs.Admission.Review
import Sidecar.Proofs.Json.Limit

/-!
Posted reviews are answered, on every platform: with the judgement on the object that the body holds, or with
a refusal if it holds none. Exactly three kinds of bodies are not: those whose charset is unknown or fails in
a way of its own, those with an integer that is too long to be read, and those with a pod whose containers
would be sent to a port that cannot be written.
-/

namespace Sidecar.Admission

variable (p : Platform) (c : InjectionConfig) (request : Http.Request)

/-- The object that a body holds. Nothing is too long or too deep for it. -/
def bodyObject? : Option (List (Value × Value)) :=
  match p.bodyText request with
  | .ok (some cs) =>
    match Json.read {} cs with
    | .ok (.map es) => some es
    | _ => none
  | _ => none

/-- What a posted review is to be answered with. -/
def IsReviewAnswer (response : Http.Response) : Prop :=
  match bodyObject? p request with
  | some es => ∃ answer text, mutate c (.map es) = .ok answer ∧ Json.print answer.toValue = .ok text ∧
      response = .json 200 text
  | none => response = .plain 400 "Failed to unmarshal admission review"

/-- The request has its answer, whatever the server is asked before and after it. -/
def Answered : Prop :=
  ∃ exchange,
    (∀ before after, (p.serve c (before ++ request :: after))[before.length]? = some (.ok exchange)) ∧
      IsReviewAnswer p c request exchange.response

/-- The platform takes the body, follows it to its full depth, and knows all of its characters. -/
structure Accepted : Prop where
  taken : p.check request.body = none
  followed : ∀ cs, p.bodyText request = .ok (some cs) → Json.read p.limits cs ≠ .error .tooDeep
  represented : ∀ cs, p.bodyText request = .ok (some cs) → Json.read p.limits cs ≠ .error .loneSurrogate

/-- A body that does not stop the server. -/
structure Legible : Prop where
  /-- It is empty, or its charset tells whether it is a text. -/
  charset : request.body = [] ∨
    (∃ cs, p.decode ((p.charset request).getD "utf-8") request.body = .ok cs) ∨
    p.decode ((p.charset request).getD "utf-8") request.body = .error .malformed
  integers : ∀ cs count, p.bodyText request = .ok (some cs) →
    Json.read p.limits cs ≠ .error (.tooManyDigits count)
  port : ∀ es pod, bodyObject? p request = some es → Carries (.map es) pod →
    c.inject pod ≠ .error .portTooLong

variable {p c request}

theorem answered_iff_handle : Answered p c request ↔
    ∃ exchange, p.handle c request = .ok exchange ∧ IsReviewAnswer p c request exchange.response := by
  have hserve (before after : List Http.Request) :
      (p.serve c (before ++ request :: after))[before.length]? = some (p.handle c request) := by
    simp [Platform.serve]
  simp only [Answered, hserve, Option.some.injEq, forall_const]

theorem bodyText_eq_ok_iff : (∃ text, p.bodyText request = .ok text) ↔ request.body = [] ∨
    (∃ cs, p.decode ((p.charset request).getD "utf-8") request.body = .ok cs) ∨
    p.decode ((p.charset request).getD "utf-8") request.body = .error .malformed := by
  unfold Platform.bodyText
  cases hbody : request.body with
  | nil => simp
  | cons b bytes =>
    simp only [List.isEmpty_cons, Bool.false_eq_true, if_false, reduceCtorEq, false_or]
    cases p.decode ((p.charset request).getD "utf-8") (b :: bytes) with
    | ok cs => simp
    | error failure => cases failure <;> simp

/-- The answer to a review that was read can be sent. -/
theorem printable_mutate {es : List (Value × Value)} (h : Json.Printable (.map es)) {answer : Answer}
    (hanswer : mutate c (.map es) = .ok answer) : Json.Printable answer.toValue := by
  have huid : Json.Printable answer.uid := by
    rw [mutate_uid hanswer]
    cases hpath : (Value.map es).at? ["request", "uid"] with
    | none => exact Json.printable_str _
    | some uid => exact h.at? hpath
  obtain ⟨uid, verdict⟩ := answer
  have hbool (b : Bool) : Json.Printable (.bool b) := ⟨_, rfl⟩
  have henvelope {o : Object} (ho : ∀ e ∈ o, Json.Printable e.2) : Json.Printable (.object [
      ("apiVersion", .str "admission.k8s.io/v1"), ("kind", .str "AdmissionReview"),
      ("response", .object o)]) := by
    simpa [Json.printable_object_iff, Json.printable_str] using ho
  cases verdict with
  | allowed pod patch =>
    refine henvelope (o := [("uid", uid), ("allowed", .bool true), ("patchType", .str "JSONPatch"),
      ("patch", .str (Base64.encode (Utf8.encode patch)))]) ?_
    simp [huid, hbool, Json.printable_str]
  | denied denial =>
    refine henvelope (o := [("uid", uid), ("allowed", .bool false),
      ("status", .object [("message", .str denial.message)])]) ?_
    simp [huid, hbool, Json.printable_str, Json.printable_object_iff]

/-- A text that is read in spite of the limits is read as it is without. -/
theorem read_eq_of_not_refused {limits : Json.Limits} {cs : List Char}
    (hdigits : ∀ count, Json.read limits cs ≠ .error (.tooManyDigits count))
    (hdepth : Json.read limits cs ≠ .error .tooDeep) : Json.read {} cs = Json.read limits cs := by
  have hlimited := Json.limited_read limits cs
  generalize Json.read limits cs = x at hdigits hdepth hlimited
  cases hlimited with
  | same => rfl
  | refused count => exact absurd rfl (hdigits count)
  | tooDeep => exact absurd rfl hdepth

theorem bodyObject?_of_read {cs : List Char} {v : Value} (haccepted : Accepted p request)
    (htext : p.bodyText request = .ok (some cs)) (hread : Json.read p.limits cs = .ok v) :
    bodyObject? p request = match v with | .map es => some es | _ => none := by
  have hsame : Json.read {} cs = Json.read p.limits cs :=
    read_eq_of_not_refused (fun count => by simp [hread]) (haccepted.followed cs htext)
  simp only [bodyObject?, htext, hsame, hread]
  cases v <;> rfl

/-- The object of a body is read if no integer in it is refused. -/
theorem read_of_bodyObject? {es : List (Value × Value)} (haccepted : Accepted p request)
    (hintegers : ∀ cs count, p.bodyText request = .ok (some cs) →
      Json.read p.limits cs ≠ .error (.tooManyDigits count))
    (h : bodyObject? p request = some es) :
    ∃ cs, p.bodyText request = .ok (some cs) ∧ Json.read p.limits cs = .ok (.map es) := by
  unfold bodyObject? at h
  split at h
  next cs htext =>
    have hsame : Json.read {} cs = Json.read p.limits cs :=
      read_eq_of_not_refused (fun count => hintegers cs count htext) (haccepted.followed cs htext)
    split at h
    next es' hread =>
      obtain rfl := Option.some.inj h
      exact ⟨cs, htext, hsame.symm.trans hread⟩
    next => nomatch h
  next => nomatch h

/-- An object that was read is answered with the judgement on it, unless nobody foresaw why its pod is not
injected. -/
theorem answerObject_of_foreseen {es : List (Value × Value)} (h : Json.Printable (.map es))
    (hport : ∀ pod, Carries (.map es) pod → c.inject pod ≠ .error .portTooLong) :
    ∃ exchange answer text, answerObject c es = .ok exchange ∧ mutate c (.map es) = .ok answer ∧
      Json.print answer.toValue = .ok text ∧ exchange.response = .json 200 text := by
  obtain ⟨answer, hanswer⟩ := exists_mutate_iff.mpr hport
  obtain ⟨text, hprint⟩ := printable_mutate h hanswer
  exact ⟨⟨.json 200 text, [answer.log], answer.patch?⟩, answer, text,
    by simp [answerObject, hanswer, hprint], hanswer, hprint, rfl⟩

theorem handleReview_of_legible (haccepted : Accepted p request) (h : Legible p c request) :
    ∃ exchange, p.handleReview c request = .ok exchange ∧
      IsReviewAnswer p c request exchange.response := by
  obtain ⟨text?, htext⟩ := bodyText_eq_ok_iff.mpr h.charset
  unfold IsReviewAnswer Platform.handleReview
  simp only [htext, bind, Except.bind, pure, Except.pure]
  cases text? with
  | none =>
    have hobject : bodyObject? p request = none := by simp [bodyObject?, htext]
    rw [hobject]
    exact ⟨_, rfl, rfl⟩
  | some cs =>
    dsimp only
    cases hvalue : Json.read p.limits cs with
    | error e =>
      cases e with
      | malformed =>
        have hsame : Json.read {} cs = .error .malformed :=
          (read_eq_of_not_refused (by simp [hvalue]) (by simp [hvalue])).trans hvalue
        have hobject : bodyObject? p request = none := by simp [bodyObject?, htext, hsame]
        rw [hobject]
        exact ⟨_, rfl, rfl⟩
      | tooManyDigits count => exact absurd hvalue (h.integers cs count htext)
      | tooDeep => exact absurd hvalue (haccepted.followed cs htext)
      | loneSurrogate => exact absurd hvalue (haccepted.represented cs htext)
    | ok v =>
      have hobject := bodyObject?_of_read haccepted htext hvalue
      rw [hobject]
      cases v with
      | map es =>
        have hread := Json.printable_of_read rfl le_rfl hvalue
        obtain ⟨exchange, answer, text, hexchange, hanswer, hprint, hresponse⟩ :=
          answerObject_of_foreseen hread fun pod hpod => h.port es pod hobject hpod
        exact ⟨exchange, hexchange, answer, text, hanswer, hprint, hresponse⟩
      | _ => exact ⟨_, rfl, rfl⟩

theorem legible_of_handleReview (haccepted : Accepted p request) {exchange : Exchange}
    (h : p.handleReview c request = .ok exchange) : Legible p c request := by
  unfold Platform.handleReview at h
  have hintegers (cs : List Char) (count : Nat) (htext : p.bodyText request = .ok (some cs)) :
      Json.read p.limits cs ≠ .error (.tooManyDigits count) := by
    intro hread
    simp [htext, hread, bind, Except.bind, throw, throwThe, MonadExceptOf.throw] at h
  refine ⟨bodyText_eq_ok_iff.mp ?_, hintegers, ?_⟩
  · cases htext : p.bodyText request with
    | error e => simp [htext, bind, Except.bind] at h
    | ok text? => exact ⟨text?, rfl⟩
  · intro es pod hes hpod hport
    obtain ⟨cs, htext, hread⟩ := read_of_bodyObject? haccepted hintegers hes
    simp [htext, hread, answerObject, mutate_of_unforeseen hpod hport, bind, Except.bind] at h

/-- A platform that knows one charset, and takes for its name what follows the equals sign. -/
def smallPlatform : Platform where
  check body := if body.length < 1048576 then none else some "Maximum request body size 1048576 exceeded"
  charset request := (request.headers.get? "Content-Type").bind fun value =>
    match value.toList.dropWhile (· ≠ '=') with
    | _ :: name => some (String.ofList name)
    | [] => none
  decode name bytes :=
    if name = "utf-8" then
      match Utf8.decodeChars? bytes with
      | some cs => .ok cs
      | none => .error .malformed
    else .error .unknown
  depth := 100
  beyond _ := .error (.platform "maximum recursion depth exceeded")

def sampleText : String := "\x7b\"request\": \x7b\"uid\": \"é\", \"object\": \x7b\"spec\": [1e5]\x7d\x7d\x7d"

/-- A review with a pod that is none. -/
def sampleRequest : Http.Request where
  method := "POST"
  target := "/mutate?timeout=10s"
  headers := [("content-type", "application/json; charset=utf-8")]
  body := Utf8.encode sampleText

/-- A review whose content type names a charset that is none. -/
def strangeRequest : Http.Request where
  method := "POST"
  target := "/mutate"
  headers := [("Content-Type", "application/json; charset=bogus")]
  body := [0x7b, 0x7d]

end Sidecar.Admission
