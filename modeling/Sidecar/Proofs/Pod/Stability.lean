import Sidecar.Proofs.Inject.Wellformed
import Sidecar.Proofs.Pod.RoundTrip

/-!
Writing is stable: what a pod is written as is read again, and written in the same way. This holds for
pods as they are read, and for pods that have been injected.
-/

namespace Sidecar

namespace Pod

/-- A well-formed pod is written, read and written to the same document. -/
theorem toValue_stable {json : Prop} {p : Pod} (h : p.Wellformed True json) :
    ∃ again, decode p.toValue = .ok again ∧ again.toValue = p.toValue := by
  have hread := decode_toValue h h.keyed
  exact ⟨p.dropNulls, hread, toValue_dropNulls p⟩

/-- If no object of a document has a field under both spellings, then the pod that is read from it is
written stably, with or without the sidecar. -/
theorem decode_toValue_stable {d : Value} {p : Pod} (hspelled : Schema.SpelledOnce (parts d))
    (h : decode d = .ok p) :
    (∃ again, decode p.toValue = .ok again ∧ again.toValue = p.toValue) ∧
    ∀ (c : InjectionConfig) (injected : Pod), c.inject p = .ok injected →
      ∃ again, decode injected.toValue = .ok again ∧ again.toValue = injected.toValue := by
  have hp : p.Wellformed True False := reads d p (fun _ => hspelled) False.elim h
  constructor
  · exact toValue_stable hp
  · intro c injected hinject
    have hinjected := InjectionConfig.inject_wellformed hinject hp
    exact toValue_stable hinjected

/-- A document that JSON does not express. It has names for keys, a text given by its bytes, a number
given by its text, and null entries. -/
def looseDocument : Value := .object [
  ("api_version", .bytes [118, 49]),
  ("metadata", .object [("labels", .object [("app", .str "web")]), ("owner", .null)]),
  ("spec", .object [
    ("init_containers", .tuple [.object [
      ("name", .str "setup"),
      ("security_context", .object [("run_as_user", .str " 1_000 "), ("level", .null)])]]),
    ("containers", .list [.object [
      ("name", .str "app"),
      ("env", .list [.object [
        ("name", .str "HOST"),
        ("origin", .object [("b", .null), ("a", .int 1)]),
        ("value_from", .object [("fieldRef", .null)]),
        ("note", .null),
        ("rank", .int 2)]]),
      ("since", .date ⟨2024, 2, 29⟩ none)]])])]

theorem decode_toValue_stable_loose : Schema.SpelledOnce (parts looseDocument) ∧
    ∃ p injected again, decode looseDocument = .ok p ∧
      InjectionConfig.inject { proxyImage := "registry/mca:1" } p = .ok injected ∧
      decode injected.toValue = .ok again ∧ again.toValue = injected.toValue := by
  have hspelled : Schema.SpelledOnce (parts looseDocument) := by decide +kernel
  obtain ⟨p, hp, injected, hinject⟩ : ∃ p, decode looseDocument = .ok p ∧
      ∃ injected, InjectionConfig.inject { proxyImage := "registry/mca:1" } p = .ok injected :=
    ⟨_, rfl, _, InjectionConfig.inject_of_port (by decide) rfl rfl⟩
  obtain ⟨-, hinjected⟩ := decode_toValue_stable hspelled hp
  obtain ⟨again, hread, hwritten⟩ := hinjected _ injected hinject
  exact ⟨hspelled, p, injected, again, hp, hinject, hread, hwritten⟩

end Pod

end Sidecar
