import Sidecar.Proofs.Admission.Reinvocation
import Sidecar.Proofs.Manifest.Writable
import Sidecar.Proofs.Pod.Place.Encode
import Sidecar.Proofs.Yaml.Hexadecimal

/-!
Injection into a manifest and the answer to a review agree on a pod: they fail at the same stage and with
the same text, and what they make of the spec is the same. They do so exactly if the injected pod can be
written as a manifest, and the port be written at all. The patch only holds the spec, so that the manifest
alone is lost where an integer outside of the spec is too long, or the pod too deep for the writer; and
where the spec itself cannot be written, the manifest fails without saying at which stage.
-/

namespace Sidecar

open Admission (Stage FailsAt mutate readPatch?)

/-- The stage that injection into a manifest fails at. -/
def ManifestError.stage : ManifestError → Stage
  | .unreadable _ | .documentCount _ | .notMapping | .notPod _ => .unmarshal
  | .notInjected _ => .inject
  | .integerTooLong | .tooDeep => .encode

/-- How the message is to start where injection into a manifest fails, by the stage that does. -/
def Admission.Stage.manifestFailure : Stage → String
  | .unmarshal => "failed to unmarshal pod: "
  | .inject => ""
  | .encode => "failed to marshal pod: "

/-- A document is read from the text that it is written as. -/
def Yaml.Reloads (v : Value) : Prop := documents (render v).toList = .ok [v]

namespace Manifest

variable {depth : Option Nat} {c : InjectionConfig} {source : Source} {review : Value}
  {es : List (Value × Value)} {pod injected : Pod}

theorem write_eq_ok_iff {p : Pod} (h : Object.IsJson p.unknown) {out : String} : write depth p = .ok out ↔
    (fits depth p.toValue = true ∧ isWritable p.toValue = true) ∧ Yaml.render p.toValue = out := by
  rw [write, unshare_of_isJson h]
  by_cases hfits : fits depth p.toValue = true <;> by_cases hwritable : isWritable p.toValue = true <;>
    simp [hfits, hwritable]

/-- A pod that cannot be written is one stage of its own, but the message does not name it. -/
theorem stage_of_write_error {p : Pod} {e : ManifestError} (h : write depth p = .error e) :
    e.stage = .encode ∧ ∀ reason, e.message ≠ e.stage.manifestFailure ++ reason := by
  have hhead (reason : String) : ("failed to marshal pod: " ++ reason).toList.head? = some 'f' := by
    rw [String.toList_append]
    rfl
  have herror : e = .tooDeep ∨ e = .integerTooLong := by
    rw [write] at h
    split at h
    · exact .inl (Except.error.inj h).symm
    · split at h
      · nomatch h
      · exact .inr (Except.error.inj h).symm
  rcases herror with rfl | rfl
  · refine ⟨rfl, fun reason hmessage => ?_⟩
    have hm : ManifestError.tooDeep.message.toList.head? = some 'm' := rfl
    rw [hmessage] at hm
    exact absurd ((hhead reason).symm.trans hm) (by decide)
  · refine ⟨rfl, fun reason hmessage => ?_⟩
    have hE : ManifestError.integerTooLong.message.toList.head? = some 'E' := by decide +kernel
    rw [hmessage] at hE
    exact absurd ((hhead reason).symm.trans hE) (by decide)

/-- A manifest with one object goes through the stages of a review. -/
theorem injectWithin_of_documents (hsource : documents source = .ok [.map es]) :
    injectWithin depth c source =
      match (Pod.decode (.map es)).report "Pod" with
      | .error report => .error (.notPod report)
      | .ok pod =>
        match c.inject pod with
        | .error e => .error (.notInjected e)
        | .ok injected => write depth injected := by
  have hread : read source =
      match (Pod.decode (.map es)).report "Pod" with
      | .error report => .error (.notPod report)
      | .ok pod => .ok pod := by
    simp only [read, hsource, List.filter_cons, List.filter_nil, ne_eq, reduceCtorEq, not_false_eq_true,
      decide_true, if_true]
    cases (Pod.decode (.map es)).report "Pod" <;> rfl
  rw [injectWithin, hread]
  cases (Pod.decode (.map es)).report "Pod" with
  | error report => rfl
  | ok pod =>
    cases hinject : c.inject pod with
    | error e => simp [hinject, bind, Except.bind, throw, throwThe, MonadExceptOf.throw]
    | ok injected => simp [hinject, bind, Except.bind]

/-- What is promised of the two: both succeed or neither does; if both do, then the document that is read
from the manifest has the spec that the patch sets; and if both fail, then they do at the same stage, and
their messages only differ in how they start. -/
structure AgreesWithMutate (depth : Option Nat) (c : InjectionConfig) (source : Source) (review : Value) :
    Prop where
  answered : ∃ answer, mutate c review = .ok answer
  succeeds_iff : ∀ answer, mutate c review = .ok answer →
    ((∃ out, injectWithin depth c source = .ok out) ↔
      answer.toValue.at? ["response", "allowed"] = some (.bool true))
  spec : ∀ answer out, mutate c review = .ok answer → injectWithin depth c source = .ok out →
    ∃ encoded loaded s, answer.toValue.at? ["response", "patch"] = some (.str encoded) ∧
      readPatch? encoded = some (.list [.object [
        ("op", .str "replace"), ("path", .str "/spec"), ("value", s)]]) ∧
      documents (.text out) = .ok [loaded] ∧ loaded.field? "spec" = some s
  failure : ∀ answer e, mutate c review = .ok answer → injectWithin depth c source = .error e →
    answer.toValue.at? ["response", "allowed"] = some (.bool false) →
    ∃ reason, FailsAt c review e.stage ∧ e.message = e.stage.manifestFailure ++ reason ∧
      answer.toValue.at? ["response", "status", "message"] = some (.str (e.stage.failure ++ reason))

/-- The injected pod can be written: it is not too deep for the writer, and no integer is too long, be it
one of its spec or one outside of the spec of the document. -/
structure Storable (depth : Option Nat) (es : List (Value × Value)) (injected : Pod) : Prop where
  levels : fits depth injected.toValue = true
  spec : isWritable injected.spec.toValue = true
  rest : ∀ e ∈ es, e.1 ≠ .str "spec" → isWritable e.2 = true

/-- Neither the port nor what is made of the pod in a document stands in the way of writing it. -/
structure Fits (depth : Option Nat) (c : InjectionConfig) (es : List (Value × Value)) : Prop where
  port : ∀ pod, Pod.decode (.map es) = .ok pod → c.inject pod ≠ .error .portTooLong
  storable : ∀ pod injected, Pod.decode (.map es) = .ok pod → c.inject pod = .ok injected →
    Storable depth es injected

section Together

variable (hsource : documents source = .ok [.map es]) (hjson : (Value.map es).isJson = true)
  (hreview : review.at? ["request", "object"] = some (.map es))

include hreview in
theorem carries_iff : Admission.Carries review pod ↔ Pod.decode (.map es) = .ok pod := by
  constructor
  · intro h
    obtain ⟨os, hos, hpod⟩ := h.decode
    rw [hreview] at hos
    obtain rfl := Value.map.inj (Option.some.inj hos)
    exact hpod
  · exact fun h => ⟨es, hreview, Schema.Checked.report_eq_ok_iff.mpr h⟩

section Injected

variable (hdecode : Pod.decode (.map es) = .ok pod) (hinject : c.inject pod = .ok injected)
include hjson hdecode hinject

theorem wellformed_of_decode : injected.Wellformed False True :=
  InjectionConfig.inject_wellformed hinject (Pod.reads (.map es) pod False.elim (fun _ => hjson) hdecode)

theorem isWritable_injected_iff : isWritable injected.toValue = true ↔
    isWritable injected.spec.toValue = true ∧ ∀ e ∈ es, e.1 ≠ .str "spec" → isWritable e.2 = true := by
  obtain ⟨o, rfl, ho⟩ := Value.exists_object_of_isJson hjson
  have houtside : (∀ e ∈ o.entries, e.1 ≠ .str "spec" → isWritable e.2 = true) ↔
      ∀ e ∈ o, e.1 ≠ "spec" → isWritable e.2 = true := by
    constructor
    · intro h e he hne
      exact h (.str e.1, e.2) (List.mem_map_of_mem he) fun heq => hne (Value.str.inj heq)
    · intro h e he hne
      obtain ⟨entry, hentry, rfl⟩ := List.mem_map.mp he
      exact h entry hentry fun heq => hne (congrArg Value.str heq)
  rw [houtside, Pod.isWritable_outside_spec ho hdecode, Pod.isWritable_toValue_iff,
    ← InjectionConfig.inject_frame hinject]

include hsource in
/-- The manifest is written exactly if the injected pod can be. -/
theorem injectWithin_eq_ok_iff {out : String} : injectWithin depth c source = .ok out ↔
    Storable depth es injected ∧ Yaml.render injected.toValue = out := by
  have hunknown := (wellformed_of_decode hjson hdecode hinject).unknown.isJson trivial
  rw [injectWithin_of_documents hsource, Schema.Checked.report_eq_ok_iff.mpr hdecode]
  simp only [hinject]
  rw [write_eq_ok_iff hunknown, isWritable_injected_iff hjson hdecode hinject]
  exact and_congr_left fun _ => ⟨fun h => ⟨h.1, h.2.1, h.2.2⟩, fun h => ⟨h.levels, h.spec, h.rest⟩⟩

theorem print_spec_iff : (∃ text, Json.print injected.spec.toValue = .ok text) ↔
    isWritable injected.spec.toValue = true :=
  (isWritable_iff_print (PodSpec.toValue_isJson (wellformed_of_decode hjson hdecode hinject).spec)).symm

end Injected

include hsource hreview in
/-- Where a review fails before its pod is written, the manifest does too, for the same reason. -/
theorem injectWithin_of_failsAt {stage : Stage} (h : FailsAt c review stage) (hstage : stage ≠ .encode)
    (depth : Option Nat) :
    ∃ answer e reason, mutate c review = .ok answer ∧ injectWithin depth c source = .error e ∧
      e.stage = stage ∧ e.message = stage.manifestFailure ++ reason ∧
      answer.toValue.at? ["response", "status", "message"] = some (.str (stage.failure ++ reason)) := by
  cases stage with
  | encode => exact absurd rfl hstage
  | unmarshal =>
    cases hreport : (Pod.decode (.map es)).report "Pod" with
    | ok pod => exact absurd ⟨es, hreview, hreport⟩ (h pod)
    | error report =>
      have hverdict : (mutate c review).map Admission.Answer.verdict = .ok (.denied (.notPod report)) := by
        rw [Admission.mutate_verdict hreview]
        simp only [Admission.judge, hreport]
      obtain ⟨answer, hanswer, hdenied⟩ := Admission.exists_answer hverdict
      refine ⟨answer, .notPod report, report.text, hanswer, ?_, rfl, rfl, (Admission.at?_of_denied hdenied).2.2⟩
      rw [injectWithin_of_documents hsource, hreport]
  | inject =>
    obtain ⟨pod, e, hpod, he, hforeseen⟩ := h
    obtain ⟨answer, hanswer, hdenied⟩ := Admission.mutate_of_inject_error hpod he hforeseen
    refine ⟨answer, .notInjected e, e.message, hanswer, ?_, rfl, String.empty_append.symm,
      (Admission.at?_of_denied hdenied).2.2⟩
    rw [injectWithin_of_documents hsource, Schema.Checked.report_eq_ok_iff.mpr ((carries_iff hreview).mp hpod)]
    simp only [he]

include hsource hjson hreview in
theorem AgreesWithMutate.fits (h : AgreesWithMutate depth c source review) : Fits depth c es := by
  obtain ⟨answer, hanswer⟩ := h.answered
  constructor
  · exact fun pod hdecode => Admission.exists_mutate_iff.mp h.answered pod ((carries_iff hreview).mpr hdecode)
  · intro pod injected hdecode hinject
    cases hout : injectWithin depth c source with
    | ok out => exact ((injectWithin_eq_ok_iff hsource hjson hdecode hinject).mp hout).1
    | error e =>
      -- neither an allowed review nor a denied one fits to this error
      exfalso
      have hwrite : write depth injected = .error e := by
        rw [injectWithin_of_documents hsource, Schema.Checked.report_eq_ok_iff.mpr hdecode] at hout
        simpa only [hinject] using hout
      rcases Admission.passes_or_failsAt hanswer with hpasses | ⟨stage, hstage⟩
      · obtain ⟨out, hok⟩ := (h.succeeds_iff answer hanswer).mpr
          ((Admission.allowed_iff_passes hanswer).mpr hpasses)
        rw [hout] at hok
        nomatch hok
      · obtain ⟨reason, -, hmessage, -⟩ :=
          h.failure answer e hanswer hout (Admission.denied_of_failsAt hanswer hstage).1
        exact (stage_of_write_error hwrite).2 reason hmessage

section Fitting

variable (hfits : Fits depth c es)
include hreview hjson hfits

/-- A pod that can be written as a manifest can be written as a patch. -/
theorem Fits.stage_ne_encode {stage : Stage} (h : FailsAt c review stage) : stage ≠ .encode := by
  rintro rfl
  obtain ⟨pod, injected, e, hpod, hinject, hprint⟩ := h
  have hdecode := (carries_iff hreview).mp hpod
  obtain ⟨text, htext⟩ :=
    (print_spec_iff hjson hdecode hinject).mpr (hfits.storable pod injected hdecode hinject).spec
  rw [htext] at hprint
  nomatch hprint

include hsource in
theorem Fits.succeeds_iff {answer : Admission.Answer} (hanswer : mutate c review = .ok answer) :
    (∃ out, injectWithin depth c source = .ok out) ↔
      answer.toValue.at? ["response", "allowed"] = some (.bool true) := by
  rw [Admission.allowed_iff_passes hanswer]
  constructor
  · rintro ⟨out, hout⟩
    refine (Admission.passes_or_failsAt hanswer).resolve_right fun ⟨stage, hstage⟩ => ?_
    obtain ⟨_, e, _, -, he, -⟩ := injectWithin_of_failsAt hsource hreview hstage
      (hfits.stage_ne_encode hjson hreview hstage) depth
    rw [he] at hout
    nomatch hout
  · rintro ⟨injected, text, pod, hpod, hinject, -⟩
    have hdecode := (carries_iff hreview).mp hpod
    exact ⟨_, (injectWithin_eq_ok_iff hsource hjson hdecode hinject).mpr
      ⟨hfits.storable pod injected hdecode hinject, rfl⟩⟩

end Fitting

include hsource hjson hreview in
theorem Fits.agreesWithMutate (hfits : Fits depth c es)
    (hreload : ∀ pod injected, Pod.decode (.map es) = .ok pod → c.inject pod = .ok injected →
      Storable depth es injected → Yaml.Reloads injected.toValue) :
    AgreesWithMutate depth c source review := by
  refine ⟨?_, fun answer hanswer => hfits.succeeds_iff hsource hjson hreview hanswer, ?_, ?_⟩
  · exact Admission.exists_mutate_iff.mpr fun pod hpod => hfits.port pod ((carries_iff hreview).mp hpod)
  · intro answer out hanswer hout
    have hallowed := (hfits.succeeds_iff hsource hjson hreview hanswer).mp ⟨out, hout⟩
    obtain ⟨injected, text, hpasses⟩ := (Admission.allowed_iff_passes hanswer).mp hallowed
    obtain ⟨pod, patched, hpod, hinject, hprint, hverdict⟩ := Admission.allowed_of_passes hanswer hpasses
    have hdecode := (carries_iff hreview).mp hpod
    obtain ⟨hstorable, rfl⟩ := (injectWithin_eq_ok_iff hsource hjson hdecode hinject).mp hout
    have hwell := wellformed_of_decode hjson hdecode hinject
    have hspec : Pod.specField.underKey? injected.toValue = some injected.spec.toValue := by
      rw [Pod.toValue, (Pod.apart hwell).underKey?_eq (v := injected.spec.toValue) (by simp [Pod.declared]),
        if_neg Value.noConfusion]
    exact ⟨_, injected.toValue, injected.spec.toValue, (Admission.at?_of_allowed hverdict).2.2,
      Admission.readPatch?_encode hwell.spec hprint, hreload pod injected hdecode hinject hstorable, hspec⟩
  · intro answer e hanswer he hdenied
    rcases Admission.passes_or_failsAt hanswer with hpasses | ⟨stage, hstage⟩
    · rw [(Admission.allowed_iff_passes hanswer).mpr hpasses] at hdenied
      simp at hdenied
    · obtain ⟨answer', e', reason, hanswer', he', rfl, hmessage, hstatus⟩ :=
        injectWithin_of_failsAt hsource hreview hstage (hfits.stage_ne_encode hjson hreview hstage) depth
      obtain rfl : answer = answer' := Except.ok.inj (hanswer.symm.trans hanswer')
      obtain rfl : e = e' := Except.error.inj (he.symm.trans he')
      exact ⟨reason, hstage, hmessage, hstatus⟩

end Together

/-- Of a manifest that is read as one JSON object, and a review of the same object: they agree exactly if
neither the port nor what is made of the pod stands in the way of writing it. What is written is supposed
to be read back. -/
theorem inject_agrees_with_mutate_iff (depth : Option Nat) (c : InjectionConfig) {source : Source}
    {review : Value} {es : List (Value × Value)} (hsource : documents source = .ok [.map es])
    (hjson : (Value.map es).isJson = true)
    (hreview : review.at? ["request", "object"] = some (.map es))
    (hreload : ∀ pod injected, Pod.decode (.map es) = .ok pod → c.inject pod = .ok injected →
      Storable depth es injected → Yaml.Reloads injected.toValue) :
    AgreesWithMutate depth c source review ↔ Fits depth c es :=
  ⟨fun h => h.fits hsource hjson hreview, fun h => h.agreesWithMutate hsource hjson hreview hreload⟩

/-- A review of a pod. -/
def reviewOf (pod : Value) : Value :=
  .object [("request", .object [("uid", .str "705ab4f5"), ("object", pod)])]

def sampleManifest : Source := .text
  "metadata: \x7bname: pod, weight: 1.5\x7d\nspec:\n  containers: [name: app]\n  initContainers: [name: mca-proxy]\n"

/-- What stands in the manifest. -/
def sampleEntries : List (Value × Value) := Object.entries [
  ("metadata", .object [("name", .str "pod"), ("weight", .float (.finite false 4609434218613702656))]),
  ("spec", .object [
    ("containers", .list [.object [("name", .str "app")]]),
    ("initContainers", .list [.object [("name", .str "mca-proxy")]])])]

def sampleConfig : InjectionConfig :=
  { proxyImage := "registry/mca:1", redirectVolumeName := "mca", redirectPolicy := .mountedOnly }

/-- The pod in the manifest is injected, and what becomes of it is written and read back. -/
theorem exists_sampleInjected : ∃ pod injected, Pod.decode (.map sampleEntries) = .ok pod ∧
    sampleConfig.inject pod = .ok injected ∧ Storable (some 9) sampleEntries injected ∧
      Yaml.Reloads injected.toValue := by
  refine ⟨_, _, rfl, InjectionConfig.inject_of_port (by decide) rfl rfl, ⟨?_, ?_, ?_⟩, ?_⟩
  · decide +kernel
  · decide +kernel
  · decide +kernel
  · rw [Yaml.Reloads]
    decide +kernel

theorem inject_agrees_with_mutate_iff_sample : documents sampleManifest = .ok [.map sampleEntries] ∧
    (Value.map sampleEntries).isJson = true ∧
    (reviewOf (.map sampleEntries)).at? ["request", "object"] = some (.map sampleEntries) ∧
    (∀ pod injected, Pod.decode (.map sampleEntries) = .ok pod → sampleConfig.inject pod = .ok injected →
      Storable (some 9) sampleEntries injected → Yaml.Reloads injected.toValue) ∧
    Fits (some 9) sampleConfig sampleEntries ∧
    AgreesWithMutate (some 9) sampleConfig sampleManifest (reviewOf (.map sampleEntries)) := by
  have hsource : documents sampleManifest = .ok [.map sampleEntries] := by decide +kernel
  have hjson : (Value.map sampleEntries).isJson = true := by decide +kernel
  have hreview : (reviewOf (.map sampleEntries)).at? ["request", "object"] = some (.map sampleEntries) := rfl
  obtain ⟨pod, injected, hdecode, hinject, hstorable, hback⟩ := exists_sampleInjected
  have hunique : ∀ p q, Pod.decode (.map sampleEntries) = .ok p → sampleConfig.inject p = .ok q →
      q = injected := by
    intro p q hp hq
    obtain rfl := Schema.Checked.ok.inj (hp.symm.trans hdecode)
    exact Except.ok.inj (hq.symm.trans hinject)
  have hreload : ∀ p q, Pod.decode (.map sampleEntries) = .ok p → sampleConfig.inject p = .ok q →
      Storable (some 9) sampleEntries q → Yaml.Reloads q.toValue := fun p q hp hq _ => hunique p q hp hq ▸ hback
  have hfits : Fits (some 9) sampleConfig sampleEntries :=
    ⟨fun _ _ => InjectionConfig.inject_ne_portTooLong (by decide),
      fun p q hp hq => hunique p q hp hq ▸ hstorable⟩
  exact ⟨hsource, hjson, hreview, hreload, hfits,
    (inject_agrees_with_mutate_iff (some 9) sampleConfig hsource hjson hreview hreload).mpr hfits⟩

/-- A manifest with a power of sixteen outside of its spec. -/
def powerSource (n : Nat) : Source := .text ("a: !!int 0x" ++ String.ofList ('1' :: List.replicate n '0'))

def powerDocument (n : Nat) : Value := .map [(.str "a", .int (16 ^ n : Nat))]

theorem documents_powerSource (n : Nat) : documents (powerSource n) = .ok [powerDocument n] := by
  have hdigits := Yaml.documents_hexadecimal (List.cons_ne_nil _ _) (Yaml.Numeral.natOf_zeros n)
  rw [powerSource, documents, String.toList_append,
    String.toList_ofList (l := '1' :: List.replicate n '0')]
  exact hdigits

/-- An integer of more than 4300 digits outside of the spec stops the manifest only. -/
theorem inject_disagrees_with_mutate :
    documents (powerSource 3572) = .ok [powerDocument 3572] ∧ (powerDocument 3572).isJson = true ∧
    (mutate { proxyImage := "registry/mca:1" } (reviewOf (powerDocument 3572))).toOption.bind
      (fun answer => answer.toValue.at? ["response", "allowed"]) = some (.bool true) ∧
    inject { proxyImage := "registry/mca:1" } (powerSource 3572) = .error .integerTooLong ∧
    ¬ AgreesWithMutate none { proxyImage := "registry/mca:1" } (powerSource 3572)
      (reviewOf (powerDocument 3572)) := by
  have hsource := documents_powerSource 3572
  have hallowed : (mutate { proxyImage := "registry/mca:1" } (reviewOf (powerDocument 3572))).toOption.bind
      (fun answer => answer.toValue.at? ["response", "allowed"]) = some (.bool true) := by decide +kernel
  have hinject : inject { proxyImage := "registry/mca:1" } (powerSource 3572) = .error .integerTooLong := by
    rw [inject, injectWithin_of_documents hsource]
    decide +kernel
  refine ⟨hsource, by decide +kernel, hallowed, hinject, fun hagrees => ?_⟩
  obtain ⟨answer, hanswer⟩ := hagrees.answered
  rw [hanswer] at hallowed
  obtain ⟨out, hout⟩ := (hagrees.succeeds_iff answer hanswer).mpr hallowed
  nomatch hinject.symm.trans hout

end Manifest

end Sidecar
