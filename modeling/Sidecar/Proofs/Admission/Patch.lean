import Sidecar.Proofs.Admission.Review
import Sidecar.Proofs.Value.Patch

/-!
What the patch in an answer does to the pod that was sent. It replaces the spec, and so it only applies to
a pod that has one, although a pod without a spec is read, injected and allowed too.
-/

namespace Sidecar.Admission

variable {c : InjectionConfig}

/-- The patch replaces the spec if there is one, and otherwise it does not apply. -/
theorem applyPatch?_patch {os : List (Value × Value)} (hos : (Value.map os).isJson = true) (s : PodSpec) :
    Value.applyPatch? (patch s) (.map os) =
      ((Value.map os).field? "spec").map fun _ => Value.withEntry os "spec" s.toValue := by
  have hpointer : Value.pointer? "/spec" = some ["spec"] := by decide
  have hoperation (document : Value) : Value.applyOperation? document (.object [
      ("op", .str "replace"), ("path", .str "/spec"), ("value", s.toValue)]) =
        document.replace? ["spec"] s.toValue := by
    simp [Value.applyOperation?, Value.object, Value.field?, hpointer]
  rw [patch, Value.applyPatch?, List.foldlM_cons, hoperation, Value.replace?_entry hos]
  cases (Value.map os).field? "spec" <;> rfl

/-- An allowed review carries a pod, and a patch that is sent with it. -/
theorem exists_patch_of_allowed {review : Value} (hreview : review.isJson = true) {answer : Answer}
    (hanswer : mutate c review = .ok answer)
    (hallowed : answer.toValue.at? ["response", "allowed"] = some (.bool true)) :
    ∃ os pod injected encoded, review.at? ["request", "object"] = some (.map os) ∧
      Pod.decode (.map os) = .ok pod ∧ c.inject pod = .ok injected ∧
      answer.toValue.at? ["response", "patch"] = some (.str encoded) ∧
      readPatch? encoded = some (patch injected.spec) := by
  obtain ⟨injected, text, hpasses⟩ := (allowed_iff_passes hanswer).mp hallowed
  obtain ⟨pod, patched, hpod, hinject, hprint, hverdict⟩ := allowed_of_passes hanswer hpasses
  obtain ⟨os, hos, hdecode⟩ := hpod.decode
  have hinjected := InjectionConfig.inject_wellformed hinject (hpod.wellformed hreview)
  exact ⟨os, pod, injected, _, hos, hdecode, hinject, (at?_of_allowed hverdict).2.2,
    readPatch?_encode hinjected.spec hprint⟩

/-- The patch of an allowed review applies to the pod that was sent exactly if that pod has a spec. Then
the spec becomes that of the injected pod, and all other entries stay as they are. -/
theorem patch_applies_iff (c : InjectionConfig) {es : List (Value × Value)}
    (hreview : (Value.map es).isJson = true) {answer : Answer}
    (hanswer : mutate c (.map es) = .ok answer)
    (hallowed : answer.toValue.at? ["response", "allowed"] = some (.bool true)) :
    ∃ os pod injected encoded document,
      (Value.map es).at? ["request", "object"] = some (.map os) ∧
      Pod.decode (.map os) = .ok pod ∧ c.inject pod = .ok injected ∧
      answer.toValue.at? ["response", "patch"] = some (.str encoded) ∧
      readPatch? encoded = some document ∧
      ((∃ after, Value.applyPatch? document (.map os) = some after) ↔
        ∃ spec, (Value.map os).field? "spec" = some spec) ∧
      ∀ after, Value.applyPatch? document (.map os) = some after →
        after = Value.withEntry os "spec" injected.spec.toValue ∧
          after.field? "spec" = some injected.spec.toValue := by
  obtain ⟨os, pod, injected, encoded, hos, hpod, hinject, hencoded, hread⟩ :=
    exists_patch_of_allowed hreview hanswer hallowed
  have hjson := Value.isJson_of_at? hreview hos
  refine ⟨os, pod, injected, encoded, _, hos, hpod, hinject, hencoded, hread, ?_, ?_⟩
  · rw [applyPatch?_patch hjson]
    cases (Value.map os).field? "spec" <;> simp
  · intro after hafter
    rw [applyPatch?_patch hjson] at hafter
    obtain ⟨old, hold, rfl⟩ := Option.map_eq_some_iff.mp hafter
    exact ⟨rfl, Value.field?_withEntry hjson hold _⟩

theorem patch_applies_sample : sampleReview.isJson = true ∧
    ∃ answer os injected encoded document after,
      mutate { proxyImage := "registry/mca:1" } sampleReview = .ok answer ∧
      answer.toValue.at? ["response", "allowed"] = some (.bool true) ∧
      sampleReview.at? ["request", "object"] = some (.map os) ∧
      answer.toValue.at? ["response", "patch"] = some (.str encoded) ∧
      readPatch? encoded = some document ∧ Value.applyPatch? document (.map os) = some after ∧
      after = Value.withEntry os "spec" (PodSpec.toValue injected) := by
  have hjson : sampleReview.isJson = true := by decide +kernel
  have hmutate : ((mutate { proxyImage := "registry/mca:1" } sampleReview).map fun answer =>
      answer.toValue.at? ["response", "allowed"]) = .ok (some (.bool true)) := by decide +kernel
  obtain ⟨answer, hanswer, hallowed⟩ := exists_of_map_eq_ok hmutate
  obtain ⟨os, pod, injected, encoded, document, hos, -, -, hencoded, hread, happlies, hafter⟩ :=
    patch_applies_iff { proxyImage := "registry/mca:1" } hjson hanswer hallowed
  have hobject : sampleReview.at? ["request", "object"] = some sampleObject := rfl
  have hspec : ∃ spec, (Value.map os).field? "spec" = some spec := by
    rw [← Option.some.inj (hobject.symm.trans hos)]
    exact ⟨_, rfl⟩
  obtain ⟨after, happlied⟩ := happlies.mpr hspec
  exact ⟨hjson, answer, os, injected.spec, encoded, document, after, hanswer, hallowed, hos, hencoded, hread,
    happlied, (hafter after happlied).1⟩

/-- A review with a pod that leaves its spec to the default. -/
def speclessReview : Value :=
  .object [("request", .object [
    ("uid", .str "705ab4f5"),
    ("object", .object [("metadata", .object [("name", .str "pod")])])])]

/-- It is allowed, with a patch that replaces a spec which is not there. -/
theorem patch_not_applicable_without_spec : ∃ answer os encoded document,
    mutate { proxyImage := "registry/mca:1" } speclessReview = .ok answer ∧
    answer.toValue.at? ["response", "allowed"] = some (.bool true) ∧
    speclessReview.at? ["request", "object"] = some (.map os) ∧
    answer.toValue.at? ["response", "patch"] = some (.str encoded) ∧
    readPatch? encoded = some document ∧ Value.applyPatch? document (.map os) = none := by
  have hjson : speclessReview.isJson = true := by decide +kernel
  have hmutate : ((mutate { proxyImage := "registry/mca:1" } speclessReview).map fun answer =>
      answer.toValue.at? ["response", "allowed"]) = .ok (some (.bool true)) := by decide +kernel
  obtain ⟨answer, hanswer, hallowed⟩ := exists_of_map_eq_ok hmutate
  obtain ⟨os, pod, injected, encoded, hos, -, -, hencoded, hread⟩ :=
    exists_patch_of_allowed hjson hanswer hallowed
  refine ⟨answer, os, encoded, _, hanswer, hallowed, hos, hencoded, hread, ?_⟩
  have hobject : speclessReview.at? ["request", "object"] =
      some (.object [("metadata", .object [("name", .str "pod")])]) := rfl
  rw [applyPatch?_patch (Value.isJson_of_at? hjson hos), ← Option.some.inj (hobject.symm.trans hos)]
  rfl

end Sidecar.Admission
