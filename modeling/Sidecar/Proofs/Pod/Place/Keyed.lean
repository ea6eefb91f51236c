import Sidecar.Proofs.Inject.Objects
import Sidecar.Proofs.Pod.Place.Decode
import Sidecar.Proofs.Pod.Place.Encode

/-!
What a pod is written as has all fields under their keys, if in no place an unknown entry is missing from
the pod that is read from it.
-/

namespace Sidecar

open Schema (Keyed Apart Separate)

variable {α β : Type} {strict json : Prop}

theorem exists_getElem?_of_forall₂ {R : α → β → Prop} {as : List α} {bs : List β}
    (h : List.Forall₂ R as bs) {a : α} (ha : a ∈ as) :
    ∃ (index : Nat) (b : β), as[index]? = some a ∧ bs[index]? = some b ∧ R a b := by
  induction h with
  | nil => simp at ha
  | cons hr _ ih =>
    rcases List.mem_cons.mp ha with rfl | ha
    · exact ⟨0, _, rfl, rfl, hr⟩
    · obtain ⟨index, b, hindex, hb, hr⟩ := ih ha
      exact ⟨index + 1, b, hindex, hb, hr⟩

theorem find?_of_nodup {name : α → String} {as : List α} (h : (as.map name).Nodup) {a : α}
    (ha : a ∈ as) : as.find? (fun x => name x = name a) = some a := by
  induction as with
  | nil => simp at ha
  | cons b as ih =>
    rw [List.map_cons, List.nodup_cons] at h
    rcases List.mem_cons.mp ha with rfl | ha
    · simp
    · have hne : name b ≠ name a := fun heq => h.1 (heq ▸ List.mem_map_of_mem ha)
      rw [List.find?_cons_of_neg (by simpa using hne)]
      exact ih h.2 ha

/-- Where names are distinct and kept, an item and what was read from it are found under one name. -/
theorem exists_find?_of_forall₂ {R : α → β → Prop} {as : List α} {bs : List β} {name : α → String}
    {name' : β → String} (h : List.Forall₂ R as bs) (hnodup : (as.map name).Nodup)
    (hnodup' : (bs.map name').Nodup) {a : α} (hname : ∀ b, R a b → name' b = name a) (ha : a ∈ as) :
    ∃ b, as.find? (fun x => name x = name a) = some a ∧ bs.find? (fun x => name' x = name a) = some b ∧
      R a b := by
  obtain ⟨index, b, -, hindex, hr⟩ := exists_getElem?_of_forall₂ h ha
  have hfind := find?_of_nodup hnodup' (List.mem_of_getElem? hindex)
  rw [hname b hr] at hfind
  exact ⟨b, find?_of_nodup hnodup ha, hfind, hr⟩

namespace Schema

variable {declared : List (FieldName × Value)} {unknown : Object} {f : FieldName}
  {read : Value → Checked α} {w : β → Value}

/-- What is read from a declared field is read from what it holds. -/
theorem of_withDefault_ofFields (h : Separate declared unknown) {v : Value} {default a : α}
    (hmem : (f, v) ∈ declared) (hv : v ≠ .null)
    (hread : f.withDefault default read (Object.ofFields declared unknown).entries = .ok a) :
    read v = .ok a := by
  rw [FieldName.withDefault_eq_ok_iff, get?_ofFields h hmem, if_neg hv] at hread
  exact hread

theorem of_optional_ofFields (h : Separate declared unknown) {x : Option β} {y : Option α}
    (hmem : (f, Value.optional w x) ∈ declared) (hw : ∀ b, w b ≠ .null)
    (hread : f.optional read (Object.ofFields declared unknown).entries = .ok y) :
    Option.Rel (fun b a => read (w b) = .ok a) x y := by
  rw [FieldName.optional_eq_ok_iff, get?_ofFields h hmem] at hread
  cases x with
  | none =>
    cases y with
    | none => exact .none
    | some a => simp [Value.optional] at hread
  | some b =>
    have hsome : Value.optional w (some b) = w b := rfl
    rw [hsome, if_neg (hw b), Option.filter_some_pos (by simpa using hw b)] at hread
    cases hread with
    | some hb => exact .some hb

theorem forall₂_of_list_map {bs : List β} {as : List α} (h : list read (.list (bs.map w)) = .ok as) :
    List.Forall₂ (fun b a => read (w b) = .ok a) bs as :=
  List.forall₂_map_left_iff.mp (list_eq_ok_iff.mp h)

/-- The items of a list are read from the items in the same positions. -/
theorem forall₂_of_optional_map (h : Separate declared unknown) {x : Option (List β)}
    {y : Option (List α)} (hmem : (f, Value.optional (fun bs : List β => .list (bs.map w)) x) ∈ declared)
    (hread : f.optional (list read) (Object.ofFields declared unknown).entries = .ok y) :
    List.Forall₂ (fun b a => read (w b) = .ok a) (x.getD []) (y.getD []) := by
  have hrel := of_optional_ofFields (w := fun bs : List β => .list (bs.map w)) h hmem
    (fun _ => Value.noConfusion) hread
  cases hrel with
  | none => exact .nil
  | some hlist => exact forall₂_of_list_map hlist

end Schema

theorem EnvVar.keyed_of_decode {e e' : EnvVar} (h : e.Wellformed strict json)
    (hread : decode e.toValue = .ok e') (hlength : e.unknown.length ≤ e'.unknown.length) :
    Keyed (parts e.toValue) :=
  (keyed_parts_iff h).mpr
    (Schema.separate_of_undeclared (apart h) (decode_eq_ok_iff.mp hread).2.2.2 hlength)

theorem VolumeMount.keyed_of_decode {m m' : VolumeMount} (h : m.Wellformed strict json)
    (hread : decode m.toValue = .ok m') (hlength : m.unknown.length ≤ m'.unknown.length) :
    Keyed (parts m.toValue) :=
  (keyed_parts_iff h).mpr
    (Schema.separate_of_undeclared (apart h) (decode_eq_ok_iff.mp hread).2.2.2 hlength)

theorem SecurityContext.keyed_of_decode {c c' : SecurityContext} (h : c.Wellformed strict json)
    (hread : decode c.toValue = .ok c') (hlength : c.unknown.length ≤ c'.unknown.length) :
    Keyed (parts c.toValue) :=
  (keyed_parts_iff h).mpr
    (Schema.separate_of_undeclared (apart h) (decode_eq_ok_iff.mp hread).2.2 hlength)

theorem Volume.keyed_of_decode {v v' : Volume} (h : v.Wellformed strict json)
    (hread : decode v.toValue = .ok v') (hlength : v.unknown.length ≤ v'.unknown.length) :
    Keyed (parts v.toValue) :=
  (keyed_parts_iff h).mpr
    (Schema.separate_of_undeclared (apart h) (decode_eq_ok_iff.mp hread).2.2.2 hlength)

theorem ObjectMeta.keyed_of_decode {m m' : ObjectMeta} (h : m.Wellformed strict json)
    (hread : decode m.toValue = .ok m') (hlength : m.unknown.length ≤ m'.unknown.length) :
    Keyed (parts m.toValue) :=
  (keyed_parts_iff h).mpr
    (Schema.separate_of_undeclared (apart h) (decode_eq_ok_iff.mp hread).2.2.2.2 hlength)

/-- No unknown entry of a place is missing from the other object in that place. -/
def Covers (before after : Option Object) : Prop :=
  ∀ u ∈ before, ∀ w ∈ after, u.length ≤ w.length

theorem Container.keyed_of_decode {c c' : Container} (h : c.Wellformed strict json)
    (hread : decode c.toValue = .ok c')
    (hcovers : ∀ place : Place, Covers (place.unknown? c) (place.unknown? c')) :
    Keyed (parts c.toValue) := by
  obtain ⟨-, -, -, -, -, -, henv, hmounts, hcontext, hunknown⟩ := decode_eq_ok_iff.mp hread
  have hs : Separate c.declared c.unknown :=
    Schema.separate_of_undeclared (apart h) hunknown (hcovers .whole _ rfl _ rfl)
  refine (keyed_parts_iff h).mpr ⟨hs, fun es (hes : c.env = some es) e he => ?_,
    fun ms (hms : c.volumeMounts = some ms) m hm => ?_,
    fun s (hsc : c.securityContext = some s) => ?_⟩
  · have hitems := Schema.forall₂_of_optional_map (w := EnvVar.toValue) (x := c.env) hs
      (by simp [declared]) henv
    rw [hes, Option.getD_some] at hitems
    obtain ⟨index, e', hindex, hindex', hdecode⟩ := exists_getElem?_of_forall₂ hitems he
    refine EnvVar.keyed_of_decode (h.env es hes e he) hdecode (hcovers (.envVar index) _ ?_ _ ?_)
    · simp [Place.unknown?, hes, hindex]
    · simp [Place.unknown?, hindex']
  · have hitems := Schema.forall₂_of_optional_map (w := VolumeMount.toValue) (x := c.volumeMounts) hs
      (by simp [declared]) hmounts
    rw [hms, Option.getD_some] at hitems
    obtain ⟨index, m', hindex, hindex', hdecode⟩ := exists_getElem?_of_forall₂ hitems hm
    refine VolumeMount.keyed_of_decode (h.volumeMounts ms hms m hm) hdecode (hcovers (.mount index) _ ?_ _ ?_)
    · simp [Place.unknown?, hms, hindex]
    · simp [Place.unknown?, hindex']
  · have hrel := Schema.of_optional_ofFields (w := SecurityContext.toValue) (x := c.securityContext) hs
      (by simp [declared]) (fun _ => Value.noConfusion) hcontext
    rw [hsc] at hrel
    generalize hc' : c'.securityContext = y at hrel
    cases hrel with
    | some hdecode =>
      refine SecurityContext.keyed_of_decode (h.securityContext s hsc) hdecode
        (hcovers .securityContext _ ?_ _ ?_)
      · simp [Place.unknown?, hsc]
      · simp [Place.unknown?, hc']

/-- Containers are told by their names, and so are volumes. -/
structure PodSpec.Named (s : PodSpec) : Prop where
  containers : s.containerNames.Nodup
  volumes : s.volumeNames.Nodup

namespace PodSpec

theorem Named.nodup {s : PodSpec} (h : s.Named) (init : Bool) :
    ((Place.containers s init).map Container.name).Nodup := by
  have hall := h.containers
  rw [containerNames, List.map_append, List.nodup_append] at hall
  cases init with
  | true => exact hall.1
  | false => exact hall.2.1

variable {s s' : PodSpec}

theorem keyed_container_of_decode (hnamed : s.Named) (hnamed' : s'.Named)
    (hcovers : ∀ place : Place, Covers (place.unknown? s) (place.unknown? s')) (init : Bool)
    (hwell : ∀ c ∈ Place.containers s init, c.Wellformed strict json)
    (hitems : List.Forall₂ (fun c c' => Container.decode c.toValue = .ok c') (Place.containers s init)
      (Place.containers s' init)) {c : Container} (hc : c ∈ Place.containers s init) :
    Keyed (Container.parts c.toValue) := by
  have hname (c' : Container) (hdecode : Container.decode c.toValue = .ok c') : c'.name = c.name := by
    have hisNamed := Container.isNamed_of_decode hdecode c.name
    rw [Container.isNamed_toValue (hwell c hc)] at hisNamed
    simpa using hisNamed
  obtain ⟨c', hfind, hfind', hdecode⟩ :=
    exists_find?_of_forall₂ hitems (hnamed.nodup init) (hnamed'.nodup init) hname hc
  refine Container.keyed_of_decode (hwell c hc) hdecode fun place => ?_
  have hplace := hcovers (.container init c.name place)
  rwa [Place.unknown?, Place.unknown?, hfind, hfind'] at hplace

theorem keyed_volume_of_decode (hnamed : s.Named) (hnamed' : s'.Named)
    (hcovers : ∀ place : Place, Covers (place.unknown? s) (place.unknown? s'))
    (hwell : ∀ v ∈ s.volumes.getD [], v.Wellformed strict json)
    (hitems : List.Forall₂ (fun v v' => Volume.decode v.toValue = .ok v') (s.volumes.getD [])
      (s'.volumes.getD [])) {v : Volume} (hv : v ∈ s.volumes.getD []) :
    Keyed (Volume.parts v.toValue) := by
  have hname (v' : Volume) (hdecode : Volume.decode v.toValue = .ok v') : v'.name = v.name := by
    have hisNamed := Volume.isNamed_of_decode hdecode v.name
    rw [Volume.isNamed_toValue (hwell v hv)] at hisNamed
    simpa using hisNamed
  obtain ⟨v', hfind, hfind', hdecode⟩ :=
    exists_find?_of_forall₂ hitems hnamed.volumes hnamed'.volumes hname hv
  refine Volume.keyed_of_decode (hwell v hv) hdecode (hcovers (.volume v.name) _ ?_ _ ?_)
  · simp [Place.unknown?, hfind]
  · simp [Place.unknown?, hfind']

theorem keyed_of_decode (h : s.Wellformed strict json) (hnamed : s.Named) (hnamed' : s'.Named)
    (hread : decode s.toValue = .ok s')
    (hcovers : ∀ place : Place, Covers (place.unknown? s) (place.unknown? s')) :
    Keyed (parts s.toValue) := by
  obtain ⟨hinits, hcontainers, hvolumes, -, hunknown⟩ := decode_eq_ok_iff.mp hread
  have hs : Separate s.declared s.unknown :=
    Schema.separate_of_undeclared (apart h) hunknown (hcovers .whole _ rfl _ rfl)
  refine (keyed_parts_iff h).mpr ⟨hs, fun cs (hcs : s.initContainers = some cs) c hc => ?_,
    fun c hc => ?_, fun vs (hvs : s.volumes = some vs) v hv => ?_⟩
  · have hitems := Schema.forall₂_of_optional_map (w := Container.toValue) (x := s.initContainers) hs
      (by simp [declared]) hinits
    have hmem : c ∈ Place.containers s true := by simp [Place.containers, hcs, hc]
    exact keyed_container_of_decode hnamed hnamed' hcovers true (forall_mem_getD h.initContainers) hitems
      hmem
  · have hlist := Schema.of_withDefault_ofFields hs (v := .list (s.containers.map Container.toValue))
      (by simp [declared]) Value.noConfusion hcontainers
    exact keyed_container_of_decode hnamed hnamed' hcovers false h.containers
      (Schema.forall₂_of_list_map hlist) hc
  · have hitems := Schema.forall₂_of_optional_map (w := Volume.toValue) (x := s.volumes) hs
      (by simp [declared]) hvolumes
    have hmem : v ∈ s.volumes.getD [] := by simp [hvs, hv]
    exact keyed_volume_of_decode hnamed hnamed' hcovers (forall_mem_getD h.volumes) hitems hmem

end PodSpec

/-- The fields of a pod stand under their keys in what it is written as, if the pod that is read from it
lacks no unknown entry. -/
theorem Pod.keyed_of_decode {p p' : Pod} (h : p.Wellformed strict json) (hnamed : p.spec.Named)
    (hnamed' : p'.spec.Named) (hread : decode p.toValue = .ok p')
    (hcovers : ∀ place : Place, Covers (place.unknown? p) (place.unknown? p')) :
    Keyed (parts p.toValue) := by
  obtain ⟨-, -, hmetadata, hspec, hunknown⟩ := decode_eq_ok_iff.mp hread
  have hs : Separate p.declared p.unknown :=
    Schema.separate_of_undeclared (apart h) hunknown (hcovers .whole _ rfl _ rfl)
  have hmetadata := Schema.of_withDefault_ofFields hs (v := p.metadata.toValue) (by simp [declared])
    Value.noConfusion hmetadata
  have hspec := Schema.of_withDefault_ofFields hs (v := p.spec.toValue) (by simp [declared])
    Value.noConfusion hspec
  refine (keyed_parts_iff h).mpr ⟨hs, ?_, ?_⟩
  · exact ObjectMeta.keyed_of_decode h.metadata hmetadata (hcovers .metadata _ rfl _ rfl)
  · exact PodSpec.keyed_of_decode h.spec hnamed hnamed' hspec fun place => hcovers (.spec place)

section Values

variable {g : Value → Value}

theorem Container.Place.unknown?_values (c : Container) (place : Place) :
    place.unknown? (c.mapObjects (.values g)) = (place.unknown? c).map (Object.mapValues g) := by
  cases place with
  | whole => rfl
  | envVar index =>
    have hgetD : (c.mapObjects (.values g)).env.getD [] =
        (c.env.getD []).map (EnvVar.mapObjects (.values g)) := by
      unfold mapObjects
      cases c.env <;> rfl
    rw [unknown?, unknown?, hgetD, List.getElem?_map, List.getElem?_map, List.getElem?_map]
    cases (c.env.getD [])[index]? <;> rfl
  | mount index =>
    have hgetD : (c.mapObjects (.values g)).volumeMounts.getD [] =
        (c.volumeMounts.getD []).map (VolumeMount.mapObjects (.values g)) := by
      unfold mapObjects
      cases c.volumeMounts <;> rfl
    rw [unknown?, unknown?, hgetD, List.getElem?_map, List.getElem?_map, List.getElem?_map]
    cases (c.volumeMounts.getD [])[index]? <;> rfl
  | securityContext =>
    unfold mapObjects unknown?
    cases c.securityContext <;> rfl

theorem PodSpec.Place.unknown?_values (s : PodSpec) (place : Place) :
    place.unknown? (s.mapObjects (.values g)) = (place.unknown? s).map (Object.mapValues g) := by
  cases place with
  | whole => rfl
  | volume name =>
    have hgetD : (s.mapObjects (.values g)).volumes.getD [] =
        (s.volumes.getD []).map (Volume.mapObjects (.values g)) := by
      unfold mapObjects
      cases s.volumes <;> rfl
    have hname : (fun v : Volume => decide (v.name = name)) ∘ Volume.mapObjects (.values g) =
        fun v => decide (v.name = name) := rfl
    rw [unknown?, unknown?, hgetD, List.find?_map, hname]
    cases (s.volumes.getD []).find? (·.name = name) <;> rfl
  | container init name place =>
    have hcontainers : containers (s.mapObjects (.values g)) init =
        (containers s init).map (Container.mapObjects (.values g)) := by
      cases init with
      | true => exact mapObjects_inits s
      | false => rfl
    have hname : (fun c : Container => decide (c.name = name)) ∘ Container.mapObjects (.values g) =
        fun c => decide (c.name = name) := rfl
    rw [unknown?, unknown?, hcontainers, List.find?_map, hname]
    cases (containers s init).find? (·.name = name) with
    | none => rfl
    | some c => exact place.unknown?_values c

/-- With other values in its objects, a pod has unknown entries under the same keys. -/
theorem Pod.Place.unknown?_values (p : Pod) (place : Place) :
    place.unknown? (p.mapObjects (.values g)) = (place.unknown? p).map (Object.mapValues g) := by
  cases place with
  | whole | metadata => rfl
  | spec place => exact place.unknown?_values p.spec

end Values

end Sidecar
