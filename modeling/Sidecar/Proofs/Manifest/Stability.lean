import Sidecar.Proofs.Config.Environment
import Sidecar.Proofs.Inject.Unknown
import Sidecar.Proofs.Manifest.Failure
import Sidecar.Proofs.Pod.Place.Keyed
import Sidecar.Proofs.Text.Utf8

/-!
Injection into what injection has written. It changes nothing exactly if every field of the document that
is loaded stands under its key: where a field stands under its name alone, the second pass reads as a field
what the first has kept as an unknown entry.
-/

namespace Sidecar

open Schema (Keyed)

/-- A document is loaded from the text that it is written as, up to the origins of its dates: those that
are one object remain one object, and no others become one. -/
def Yaml.ReadsBack (v : Value) : Prop :=
  ∃ ρ : Nat → Nat, Set.InjOn ρ {o | o ∈ origins v} ∧ documents (render v).toList = .ok [v.reload ρ]

namespace InjectionConfig

variable {c : InjectionConfig} {p q : Pod}

/-- Whether injection changes a pod is up to its spec. -/
theorem inject_self_congr (hspec : p.spec = q.spec) (h : c.inject q = .ok q) : c.inject p = .ok p := by
  obtain ⟨hvalid, hport, sidecar, hsidecar, hq⟩ := inject_eq_ok_iff.mp h
  rw [← hspec] at hvalid hport hsidecar
  refine inject_eq_ok_iff.mpr ⟨hvalid, hport, sidecar, hsidecar, ?_⟩
  have hsame : (c.assemble sidecar p).spec = p.spec := by
    calc (c.assemble sidecar p).spec = (c.assemble sidecar q).spec := by simp only [assemble, hspec]
      _ = q.spec := by rw [hq]
      _ = p.spec := hspec.symm
  calc c.assemble sidecar p = { p with spec := (c.assemble sidecar p).spec } := rfl
    _ = p := by rw [hsame]

theorem inject_self_mapObjects {F : ObjectMap} (hF : F.Keeps c) (hspec : p.spec = q.spec.mapObjects F)
    (h : c.inject q = .ok q) : c.inject p = .ok p := by
  have hmap := inject_mapObjects hF q
  rw [h] at hmap
  exact inject_self_congr (q := { q with spec := q.spec.mapObjects F }) hspec hmap

/-- Loading an injected pod from its text gives a pod that is injected to itself. -/
theorem inject_self_reload {ρ : Nat → Nat} (hspec : p.spec = q.spec) (h : c.inject q = .ok q) :
    c.inject (p.mapObjects (.reload ρ)).dropNulls = .ok (p.mapObjects (.reload ρ)).dropNulls := by
  have hp := inject_self_congr hspec h
  have hreload : c.inject (p.mapObjects (.reload ρ)) = .ok (p.mapObjects (.reload ρ)) :=
    inject_self_mapObjects (ObjectMap.keeps_reload c) rfl hp
  exact inject_self_mapObjects (ObjectMap.keeps_dropNulls c) rfl hreload

/-- A pod that is injected has containers and volumes with distinct names. -/
theorem named_of_inject (h : c.inject p = .ok q) : p.spec.Named := by
  obtain ⟨hcontainers, hvolumes, -⟩ := validate_eq_ok_iff.mp (inject_eq_ok_iff.mp h).1
  exact ⟨hcontainers, hvolumes⟩

end InjectionConfig

namespace Manifest

variable {c : InjectionConfig} {source : Source} {ρ : Nat → Nat} {strict : Prop} {v : Value}

theorem decodeBytes?_encode (s : String) : Yaml.decodeBytes? (Utf8.encode s) = some s.toList := by
  have hdecode : Utf8.decodeChars? (Utf8.encode s) = some s.toList :=
    Utf8.decodeChars?_flatMap_encodeChar s.toList
  generalize Utf8.encode s = bytes at hdecode
  unfold Yaml.decodeBytes?
  split
  · -- neither byte of a mark starts a character
    simp [Utf8.decodeChars?] at hdecode
  · simp [Utf8.decodeChars?] at hdecode
  · exact hdecode

theorem documents_encode (s : String) :
    documents (.bytes (Utf8.encode s)) = Yaml.documents s.toList := by
  rw [documents, Yaml.documentsOfBytes, decodeBytes?_encode]

/-- The document that is written for a manifest. -/
def written (c : InjectionConfig) (source : Source) : Except ManifestError Value :=
  match read source with
  | .error e => .error e
  | .ok pod =>
    match c.inject pod with
    | .error e => .error (.notInjected e)
    | .ok injected => .ok (unshare injected).toValue

theorem written_eq_ok_iff : written c source = .ok v ↔ ∃ pod injected, Holds source pod ∧
    c.inject pod = .ok injected ∧ (unshare injected).toValue = v := by
  simp only [← read_eq_ok_iff]
  unfold written
  cases read source with
  | error e => simp
  | ok pod => cases hinject : c.inject pod <;> simp [hinject]

theorem inject_eq_ok_iff {out : String} : inject c source = .ok out ↔
    ∃ v, written c source = .ok v ∧ isWritable v = true ∧ Yaml.render v = out := by
  unfold inject injectWithin written
  cases read source with
  | error e => simp [bind, Except.bind]
  | ok pod =>
    cases hinject : c.inject pod with
    | error e => simp [hinject, bind, Except.bind, throw, throwThe, MonadExceptOf.throw]
    | ok injected =>
      by_cases hwritable : isWritable (unshare injected).toValue = true <;>
        simp [hinject, bind, Except.bind, write, fits, hwritable]

theorem wellformed_of_holds {pod : Pod} (h : Holds source pod) : pod.Wellformed False False := by
  obtain ⟨vs, es, -, -, hreport⟩ := h
  exact Pod.reads (.map es) pod False.elim False.elim (Schema.Checked.report_eq_ok_iff.mp hreport)

theorem wellformed_unshare {p : Pod} (h : p.Wellformed strict False) :
    (unshare p).Wellformed strict False :=
  ⟨h.metadata, h.spec, h.unknown.mapValues⟩

/-- A document with a pod in it is read as a manifest. -/
theorem holds_of_documents {p q : Pod} (hdocuments : documents source = .ok [p.toValue])
    (hdecode : Pod.decode p.toValue = .ok q) : Holds source q :=
  ⟨_, _, hdocuments, rfl, Schema.Checked.report_eq_ok_iff.mpr hdecode⟩

/-- The second pass keeps what it reads, if every field stands under its key. -/
theorem written_of_keyed (hne : c.redirectVolumeName ≠ c.credentialsVolumeName) {pod injected : Pod}
    (hpod : Holds source pod) (hinject : c.inject pod = .ok injected) {again : Source}
    (hagain : documents again = .ok [((unshare injected).toValue).reload ρ])
    (hkeyed : Keyed (Pod.parts (((unshare injected).toValue).reload ρ))) :
    written c again = .ok (unshare (reread ρ injected)).toValue := by
  have hwell := wellformed_unshare (InjectionConfig.inject_wellformed hinject (wellformed_of_holds hpod))
  rw [← Pod.toValue_reload] at hagain hkeyed
  have hholds := holds_of_documents hagain (Pod.decode_toValue hwell.values hkeyed)
  exact written_eq_ok_iff.mpr ⟨_, _, hholds,
    InjectionConfig.inject_self_reload (q := injected) rfl (inject_of_inject hne hinject), rfl⟩

theorem inject_again_of_keyed (hne : c.redirectVolumeName ≠ c.credentialsVolumeName) {out : String}
    (h : inject c source = .ok out) (hreads : ∀ v, written c source = .ok v → Yaml.ReadsBack v)
    (hkeyed : ∀ loaded, documents (.bytes (Utf8.encode out)) = .ok [loaded] → Keyed (Pod.parts loaded)) :
    inject c (.bytes (Utf8.encode out)) = .ok out := by
  obtain ⟨v, hv, hwritable, rfl⟩ := inject_eq_ok_iff.mp h
  obtain ⟨ρ, hρ, hloaded⟩ := hreads v hv
  rw [← documents_encode] at hloaded
  obtain ⟨pod, injected, hpod, hinject, rfl⟩ := written_eq_ok_iff.mp hv
  obtain ⟨σ, hσ, hsame⟩ := exists_reload_unshare hρ
  refine inject_eq_ok_iff.mpr ⟨_, written_of_keyed hne hpod hinject hloaded (hkeyed _ hloaded), ?_, ?_⟩
  · rw [hsame, isWritable_reload, hwritable]
  · rw [hsame, Yaml.render_reload hσ]

/-- A manifest without a field under both spellings is injected to one that is injected to itself. -/
theorem inject_again_of_spelledOnce (hne : c.redirectVolumeName ≠ c.credentialsVolumeName) {out : String}
    {d : Value} (hsource : documents source = .ok [d]) (hspelled : Schema.SpelledOnce (Pod.parts d))
    (h : inject c source = .ok out) (hreads : ∀ v, written c source = .ok v → Yaml.ReadsBack v) :
    inject c (.bytes (Utf8.encode out)) = .ok out := by
  refine inject_again_of_keyed hne h hreads fun loaded hloaded => ?_
  obtain ⟨v, hv, -, rfl⟩ := inject_eq_ok_iff.mp h
  obtain ⟨ρ, -, hback⟩ := hreads v hv
  obtain ⟨pod, injected, ⟨vs, es, hvs, hone, hreport⟩, hinject, rfl⟩ := written_eq_ok_iff.mp hv
  obtain rfl : loaded = ((unshare injected).toValue).reload ρ := by
    rw [documents_encode, hback] at hloaded
    simpa using hloaded.symm
  obtain rfl := Except.ok.inj (hvs.symm.trans hsource)
  have hd : d = .map es := by
    have hmem : Value.map es ∈ [d].filter (· ≠ .null) := hone ▸ List.mem_singleton_self _
    exact (List.mem_singleton.mp (List.mem_of_mem_filter hmem)).symm
  have hpod : pod.Wellformed True False := Pod.reads (.map es) pod (fun _ => hd ▸ hspelled) False.elim
    (Schema.Checked.report_eq_ok_iff.mp hreport)
  have hwell := wellformed_unshare (InjectionConfig.inject_wellformed hinject hpod)
  rw [← Pod.toValue_reload]
  exact hwell.values.keyed

/-- In no place does the injected pod have more unknown entries than the one that was read. -/
theorem covers_of_inject {p q : Pod} (h : c.inject p = .ok q) (place : Pod.Place) :
    Covers (place.unknown? ((unshare q).mapObjects (.reload ρ))) (place.unknown? p) := by
  have hlength : (place.unknown? ((unshare q).mapObjects (.reload ρ))).map List.length =
      (place.unknown? q).map List.length := by
    rw [ObjectMap.reload, Pod.Place.unknown?_values, Option.map_map]
    cases place with
    | whole => simp [Pod.Place.unknown?, unshare_eq]
    | metadata => simp [Pod.Place.unknown?, unshare_eq]
    | spec place => simp [Pod.Place.unknown?, unshare_eq, Function.comp_def]
  intro u hu w hw
  rw [hu, Option.map_some] at hlength
  rcases InjectionConfig.inject_unknown? h place with hsame | ⟨hnone, -⟩
  · rw [hsame, hw, Option.map_some] at hlength
    exact (Option.some.inj hlength).le
  · rw [hw] at hnone
    exact absurd hnone (Option.some_ne_none w)

/-- A document that is loaded from what was written for it has every field under its key. -/
theorem keyed_of_written (hne : c.redirectVolumeName ≠ c.credentialsVolumeName)
    (hdocuments : documents source = .ok [v.reload ρ]) (hv : written c source = .ok v) :
    Keyed (Pod.parts (v.reload ρ)) := by
  obtain ⟨pod, injected, hpod, hinject, rfl⟩ := written_eq_ok_iff.mp hv
  have hwell := wellformed_unshare (InjectionConfig.inject_wellformed hinject (wellformed_of_holds hpod))
  obtain ⟨vs, es, hvs, hone, hreport⟩ := hpod
  obtain rfl := Except.ok.inj (hvs.symm.trans hdocuments)
  rw [← Pod.toValue_reload] at hone ⊢
  have hobject : ((unshare injected).mapObjects (.reload ρ)).toValue = .map es :=
    List.singleton_injective hone
  have hdecode : Pod.decode ((unshare injected).mapObjects (.reload ρ)).toValue = .ok pod := by
    rw [hobject]
    exact Schema.Checked.report_eq_ok_iff.mp hreport
  have hnamed : injected.spec.Named := InjectionConfig.named_of_inject (inject_of_inject hne hinject)
  refine Pod.keyed_of_decode hwell.values ⟨?_, ?_⟩ (InjectionConfig.named_of_inject hinject) hdecode
    (covers_of_inject hinject)
  · exact (PodSpec.mapObjects_containerNames injected.spec).symm ▸ hnamed.containers
  · exact (PodSpec.mapObjects_volumeNames injected.spec).symm ▸ hnamed.volumes

/-- The characters of lines. -/
def lineChars (lines : List String) : List Char := lines.flatMap fun line => line.toList ++ ['\n']

def ofLines (lines : List String) : String := String.ofList (lineChars lines)

theorem documents_ofLines (lines : List String) :
    documents (.text (ofLines lines)) = Yaml.documents (lineChars lines) := by
  rw [documents, ofLines, String.toList_ofList]

theorem documents_encode_ofLines (lines : List String) :
    documents (.bytes (Utf8.encode (ofLines lines))) = Yaml.documents (lineChars lines) := by
  rw [documents_encode, ofLines, String.toList_ofList]

def imageOnly : InjectionConfig := { proxyImage := "registry/mca:1" }

/-- The spec of an injected pod that had nothing but a sidecar without image. -/
def bareSpec : Value := .object [
  ("initContainers", .list [.object [("name", .str "mca-proxy"), ("image", .str "registry/mca:1")]]),
  ("containers", .list []),
  ("volumes", .list [.object [("name", .str "kube-api-access-mca-sa"), ("emptyDir", .object [])]]),
  ("automountServiceAccountToken", .bool false)]

def bareSpecLines : List String := [
  "spec:",
  "  initContainers:",
  "  - name: mca-proxy",
  "    image: registry/mca:1",
  "  containers: []",
  "  volumes:",
  "  - name: kube-api-access-mca-sa",
  "    emptyDir: \x7b\x7d",
  "  automountServiceAccountToken: false"]

/-- A manifest with two dates that are one object, a null entry, a field under its name, and one under
both spellings. -/
def mixedManifest : Source := .text (ofLines [
  "apiVersion: v1",
  "api_version: 2",
  "metadata:",
  "  owner: null",
  "  since: &day 2024-02-29",
  "  until: *day",
  "spec:",
  "  init_containers:",
  "  - name: mca-proxy"])

/-- The document that is written, with the origin that its dates have. -/
def mixedDocument (origin : Nat) : Value := .object [
  ("apiVersion", .str "v1"),
  ("metadata", .object [
    ("since", .date ⟨2024, 2, 29⟩ (some origin)), ("until", .date ⟨2024, 2, 29⟩ (some origin))]),
  ("spec", bareSpec),
  ("api_version", .int 2)]

def mixedLines : List String :=
  ["apiVersion: v1", "metadata:", "  since: &id001 2024-02-29", "  until: *id001"] ++ bareSpecLines
    ++ ["api_version: 2"]

/-- The lines are what the document is written as, and what it is read back from. -/
theorem mixedLines_spec : isWritable (mixedDocument 0) = true ∧
    Yaml.render (mixedDocument 0) = ofLines mixedLines ∧
    Yaml.documents (lineChars mixedLines) = .ok [mixedDocument 34] := by
  refine ⟨?_, ?_, ?_⟩
  · decide +kernel
  · decide +kernel
  · decide +kernel

theorem eq_of_mem_origins_mixedDocument {origin o : Nat} (h : o ∈ Yaml.origins (mixedDocument origin)) :
    o = origin := by
  have horigins : Yaml.origins (mixedDocument origin) = [origin, origin] := rfl
  rw [horigins] at h
  simpa using h

theorem mixedDocument_reload (origin : Nat) :
    (mixedDocument 0).reload (fun _ => origin) = mixedDocument origin :=
  rfl

theorem isWritable_mixedDocument (origin : Nat) : isWritable (mixedDocument origin) = true := by
  rw [← mixedDocument_reload, isWritable_reload, mixedLines_spec.1]

theorem render_mixedDocument (origin : Nat) : Yaml.render (mixedDocument origin) = ofLines mixedLines := by
  rw [← mixedDocument_reload, Yaml.render_reload, mixedLines_spec.2.1]
  intro o ho k hk _
  exact (eq_of_mem_origins_mixedDocument ho).trans (eq_of_mem_origins_mixedDocument hk).symm

theorem documents_mixedLines :
    documents (.bytes (Utf8.encode (ofLines mixedLines))) = .ok [mixedDocument 34] := by
  rw [documents_encode_ofLines, mixedLines_spec.2.2]

theorem readsBack_mixedDocument (origin : Nat) : Yaml.ReadsBack (mixedDocument origin) := by
  refine ⟨fun _ => 34, fun o ho k hk _ => ?_, ?_⟩
  · exact (eq_of_mem_origins_mixedDocument ho).trans (eq_of_mem_origins_mixedDocument hk).symm
  · rw [render_mixedDocument, ofLines, String.toList_ofList, mixedLines_spec.2.2]
    rfl

/-- The document is what both passes write, with dates of other origins. -/
theorem written_mixed : written imageOnly mixedManifest = .ok (mixedDocument 63) ∧
    written imageOnly (.bytes (Utf8.encode (ofLines mixedLines))) = .ok (mixedDocument 34) := by
  have hsource : documents mixedManifest = .ok [.object [
      ("apiVersion", .str "v1"), ("api_version", .int 2),
      ("metadata", .object [("owner", .null),
        ("since", .date ⟨2024, 2, 29⟩ (some 63)), ("until", .date ⟨2024, 2, 29⟩ (some 63))]),
      ("spec", .object [("init_containers", .list [.object [("name", .str "mca-proxy")]])])]] := by
    rw [mixedManifest, documents_ofLines]
    decide +kernel
  constructor
  · rw [written, read, hsource]
    decide +kernel
  · rw [written, read, documents_mixedLines]
    decide +kernel

/-- A pod whose version is null under the key of the field, and a text under its name. -/
def nulledManifest : Source := .text (ofLines [
  "apiVersion: null",
  "api_version: v1",
  "spec:",
  "  initContainers:",
  "  - name: mca-proxy"])

def nulledLines : List String := ["metadata: \x7b\x7d"] ++ bareSpecLines ++ ["api_version: v1"]

def renamedLines : List String := ["apiVersion: v1", "metadata: \x7b\x7d"] ++ bareSpecLines

end Manifest

end Sidecar
