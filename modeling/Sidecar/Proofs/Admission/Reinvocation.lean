import Sidecar.Proofs.Admission.Review
import Sidecar.Proofs.Inject.Objects
import Sidecar.Proofs.Inject.Reinvocation

/-!
The webhook is asked again, on a pod that has the spec of its own patch: it answers with the same patch.
-/

namespace Sidecar

theorem InjectionConfig.inject_frame {c : InjectionConfig} {p q : Pod} (h : c.inject p = .ok q) :
    { p with spec := q.spec } = q := by
  obtain ⟨-, -, sidecar, -, rfl⟩ := inject_eq_ok_iff.mp h
  rfl

namespace Admission

variable {c : InjectionConfig} {review : Value}

/-- The injected spec, written and read back, is injected to what is written in the same way. -/
theorem inject_dropNulls_spec {pod injected : Pod} (hne : c.redirectVolumeName ≠ c.credentialsVolumeName)
    (h : c.inject pod = .ok injected) : c.inject { pod with spec := injected.spec.dropNulls } =
      .ok { injected with spec := injected.spec.dropNulls } := by
  have hagain := InjectionConfig.inject_mapObjects (ObjectMap.keeps_dropNulls c) injected
  rw [inject_of_inject hne h] at hagain
  have hframe : { injected with spec := injected.spec.dropNulls } =
      { pod with spec := injected.spec.dropNulls } := by
    rw [← InjectionConfig.inject_frame h]
  rw [← hframe, hagain]
  rfl

theorem Carries.wellformed_of_spelledOnce {pod : Pod} (hreview : review.isJson = true)
    (hspelled : ∀ object, review.at? ["request", "object"] = some object → Pod.spelledOnce object = true)
    (h : Carries review pod) : pod.Wellformed True True := by
  obtain ⟨os, hos, hpod⟩ := h.decode
  have hos' := Value.isJson_of_at? hreview hos
  exact Pod.reads (.map os) pod (fun _ => Pod.spelledOnce_parts hos' (hspelled _ hos)) (fun _ => hos') hpod

/-- With another spec in its place, a review carries the pod with that spec. -/
theorem Carries.setAt_spec {pod : Pod} {s : Value} {spec : PodSpec} (hreview : review.isJson = true)
    (h : Carries review pod) (hs : PodSpec.decode s = .ok spec) :
    Carries (review.setAt ["request", "object", "spec"] s) { pod with spec := spec } := by
  obtain ⟨os, hos, hpod⟩ := h.decode
  obtain ⟨o, rfl, ho⟩ := Value.exists_object_of_isJson (Value.isJson_of_at? hreview hos)
  refine ⟨_, ?_, Schema.Checked.report_eq_ok_iff.mpr (Pod.decode_insert_spec hpod hs)⟩
  have hset : (review.setAt (["request", "object"] ++ ["spec"]) s).at? ["request", "object"] =
      some ((Value.map o.entries).setAt ["spec"] s) := Value.at?_setAt hreview hos
  rw [Value.setAt, Value.setAt, Value.insertEntry_entries] at hset
  exact hset

theorem patch_dropNulls (s : PodSpec) : patch s.dropNulls = patch s := by
  rw [patch, PodSpec.toValue_dropNulls, patch]

/-- The injected spec is read without its nulls, injected as it is, and written as before. -/
theorem mutate_setAt_spec {pod injected : Pod} {patched : String}
    (hne : c.redirectVolumeName ≠ c.credentialsVolumeName) (hreview : review.isJson = true)
    (hpod : Carries review pod) (hinject : c.inject pod = .ok injected)
    (hspec : injected.spec.Wellformed True True) (hprint : Json.print (patch injected.spec) = .ok patched) :
    ∃ again, mutate c (review.setAt ["request", "object", "spec"] injected.spec.toValue) = .ok again ∧
      again.verdict = .allowed { pod with spec := injected.spec.dropNulls } patched := by
  have hcarries := hpod.setAt_spec hreview (PodSpec.decode_toValue hspec hspec.keyed)
  apply exists_answer
  rw [mutate_of_carries hcarries, inject_dropNulls_spec hne hinject]
  simp only [patch_dropNulls, hprint]

/-- If a review is allowed with a patch that gives the pod the spec `s`, then the same review with `s` for
the pod's spec is answered and allowed too, with the same patch, character by character. -/
theorem mutate_again (hne : c.redirectVolumeName ≠ c.credentialsVolumeName) {es : List (Value × Value)}
    (hreview : (Value.map es).isJson = true)
    (hspelled : ∀ object, (Value.map es).at? ["request", "object"] = some object →
      Pod.spelledOnce object = true)
    {answer : Answer} (hanswer : mutate c (.map es) = .ok answer) {encoded : String} {s : Value}
    (hallowed : answer.toValue.at? ["response", "allowed"] = some (.bool true))
    (hpatch : answer.toValue.at? ["response", "patch"] = some (.str encoded))
    (hs : readPatch? encoded = some (.list [.object [
      ("op", .str "replace"), ("path", .str "/spec"), ("value", s)]])) :
    ∃ again, mutate c ((Value.map es).setAt ["request", "object", "spec"] s) = .ok again ∧
      again.toValue.at? ["response", "allowed"] = some (.bool true) ∧
      again.toValue.at? ["response", "patch"] = some (.str encoded) := by
  obtain ⟨injected, text, hpasses⟩ := (allowed_iff_passes hanswer).mp hallowed
  obtain ⟨pod, patched, hpod, hinject, hprint, hverdict⟩ := allowed_of_passes hanswer hpasses
  have hspec :=
    (InjectionConfig.inject_wellformed hinject (hpod.wellformed_of_spelledOnce hreview hspelled)).spec
  -- the patch that is sent holds the spec of the injected pod
  have hencoded : encoded = Base64.encode (Utf8.encode patched) := by
    have hsent := (at?_of_allowed hverdict).2.2
    rw [hpatch] at hsent
    simpa using hsent
  obtain rfl : s = injected.spec.toValue := by
    rw [hencoded, readPatch?_encode hspec hprint] at hs
    simpa [patch, Value.object] using hs.symm
  obtain ⟨again, hagain, hverdictAgain⟩ := mutate_setAt_spec hne hreview hpod hinject hspec hprint
  obtain ⟨hallow, -, hsame⟩ := at?_of_allowed hverdictAgain
  rw [hencoded]
  exact ⟨again, hagain, hallow, hsame⟩

theorem mutate_again_sample : ∃ answer again encoded s,
    mutate sampleConfig sampleReview = .ok answer ∧
    answer.toValue.at? ["response", "patch"] = some (.str encoded) ∧
    readPatch? encoded = some (.list [.object [
      ("op", .str "replace"), ("path", .str "/spec"), ("value", s)]]) ∧
    mutate sampleConfig (sampleReview.setAt ["request", "object", "spec"] s) = .ok again ∧
    again.toValue.at? ["response", "patch"] = some (.str encoded) := by
  have hjson : sampleReview.isJson = true := by decide +kernel
  have hmutate : ((mutate sampleConfig sampleReview).map fun answer =>
      answer.toValue.at? ["response", "allowed"]) = .ok (some (.bool true)) := by decide +kernel
  obtain ⟨answer, hanswer, hallowed⟩ := exists_of_map_eq_ok hmutate
  have hspelled : ∀ object, sampleReview.at? ["request", "object"] = some object →
      Pod.spelledOnce object = true := by
    intro object hobject
    obtain rfl : sampleObject = object := Option.some.inj hobject
    decide +kernel
  obtain ⟨injected, text, hpasses⟩ := (allowed_iff_passes hanswer).mp hallowed
  obtain ⟨pod, patched, hpod, hinject, hprint, hverdict⟩ := allowed_of_passes hanswer hpasses
  have hspec := (InjectionConfig.inject_wellformed hinject (hpod.wellformed hjson)).spec
  have hpatch := (at?_of_allowed hverdict).2.2
  have hread := readPatch?_encode hspec hprint
  obtain ⟨again, hagain, -, hsame⟩ := mutate_again (by decide) hjson hspelled hanswer hallowed hpatch hread
  exact ⟨answer, again, _, _, hanswer, hpatch, hread, hagain, hsame⟩

end Admission

end Sidecar
