import Sidecar.Proofs.Pod.Encode

/-!
Changing the objects of a pod that injection does not look into: the unknown entries, and the objects
that fields hold as they are.
-/

namespace Sidecar

/-- The object with every value changed. -/
def Object.mapValues (g : Value → Value) (o : Object) : Object := o.map fun e => (e.1, g e.2)

/-- A change of the unknown entries, and one of the objects that fields hold. -/
structure ObjectMap where
  unknown : Object → Object
  free : Object → Object

namespace ObjectMap

/-- Unknown entries that are null are left out. -/
def dropNulls : ObjectMap := ⟨Object.dropNulls, id⟩

def values (g : Value → Value) : ObjectMap := ⟨Object.mapValues g, Object.mapValues g⟩

end ObjectMap

def EnvVar.mapObjects (F : ObjectMap) (e : EnvVar) : EnvVar :=
  { e with valueFrom := e.valueFrom.map F.free, unknown := F.unknown e.unknown }

def VolumeMount.mapObjects (F : ObjectMap) (m : VolumeMount) : VolumeMount :=
  { m with unknown := F.unknown m.unknown }

def SecurityContext.mapObjects (F : ObjectMap) (c : SecurityContext) : SecurityContext :=
  { c with unknown := F.unknown c.unknown }

def Container.mapObjects (F : ObjectMap) (c : Container) : Container := { c with
  env := c.env.map (·.map (EnvVar.mapObjects F))
  volumeMounts := c.volumeMounts.map (·.map (VolumeMount.mapObjects F))
  securityContext := c.securityContext.map (SecurityContext.mapObjects F)
  unknown := F.unknown c.unknown }

def Volume.mapObjects (F : ObjectMap) (v : Volume) : Volume := { v with
  emptyDir := v.emptyDir.map F.free
  projected := v.projected.map F.free
  unknown := F.unknown v.unknown }

def PodSpec.mapObjects (F : ObjectMap) (s : PodSpec) : PodSpec := { s with
  initContainers := s.initContainers.map (·.map (Container.mapObjects F))
  containers := s.containers.map (Container.mapObjects F)
  volumes := s.volumes.map (·.map (Volume.mapObjects F))
  unknown := F.unknown s.unknown }

def ObjectMeta.mapObjects (F : ObjectMap) (m : ObjectMeta) : ObjectMeta :=
  { m with unknown := F.unknown m.unknown }

def Pod.mapObjects (F : ObjectMap) (p : Pod) : Pod := { p with
  metadata := p.metadata.mapObjects F
  spec := p.spec.mapObjects F
  unknown := F.unknown p.unknown }

abbrev PodSpec.dropNulls (s : PodSpec) : PodSpec := s.mapObjects .dropNulls

abbrev Pod.dropNulls (p : Pod) : Pod := p.mapObjects .dropNulls

@[simp] theorem Container.mapObjects_name (F : ObjectMap) (c : Container) :
    (c.mapObjects F).name = c.name :=
  rfl

@[simp] theorem VolumeMount.mapObjects_mountPath (F : ObjectMap) (m : VolumeMount) :
    (m.mapObjects F).mountPath = m.mountPath :=
  rfl

variable {strict : Prop} {g : Value → Value}

namespace Object

theorem mem_mapValues_iff {o : Object} {e : String × Value} :
    e ∈ o.mapValues g ↔ ∃ v, (e.1, v) ∈ o ∧ g v = e.2 := by
  obtain ⟨k, w⟩ := e
  rw [mapValues, List.mem_map]
  constructor
  · rintro ⟨⟨l, v⟩, he, heq⟩
    obtain ⟨rfl, rfl⟩ := Prod.mk.inj heq
    exact ⟨v, he, rfl⟩
  · rintro ⟨v, he, rfl⟩
    exact ⟨(k, v), he, rfl⟩

theorem keys_mapValues (o : Object) : (o.mapValues g).map Prod.fst = o.map Prod.fst := by
  rw [mapValues, List.map_map]
  rfl

@[simp] theorem length_mapValues (o : Object) : (o.mapValues g).length = o.length := List.length_map ..

theorem mapValues_mapValues {f : Value → Value} (o : Object) :
    (o.mapValues f).mapValues g = o.mapValues (g ∘ f) := by
  rw [mapValues, mapValues, List.map_map]
  rfl

theorem mapValues_congr {f : Value → Value} {o : Object} (h : ∀ e ∈ o, f e.2 = g e.2) :
    o.mapValues f = o.mapValues g := by
  refine List.map_congr_left fun e he => ?_
  rw [h e he]

theorem mapValues_dropNulls {o : Object} (hg : ∀ v, g v = .null ↔ v = .null) :
    o.dropNulls.mapValues g = (o.mapValues g).dropNulls := by
  rw [mapValues, mapValues, dropNulls, dropNulls, List.filter_map]
  congr 2
  funext e
  simp [hg]

/-- Only the keys of unknown entries are spoken for, unless the values are to be JSON. -/
theorem Unclaimed.mapValues {fields : List Schema.FieldName} {o : Object}
    (h : o.Unclaimed strict False fields) : (o.mapValues g).Unclaimed strict False fields := by
  refine ⟨fun e he => ?_, fun hstrict e he => ?_, False.elim⟩
  · obtain ⟨v, hv, -⟩ := mem_mapValues_iff.mp he
    exact h.key_ne (e.1, v) hv
  · obtain ⟨v, hv, -⟩ := mem_mapValues_iff.mp he
    exact h.name_ne hstrict (e.1, v) hv

theorem Free.mapValues {o : Object} (h : o.Free False) : (o.mapValues g).Free False :=
  ⟨keys_mapValues o ▸ h.nodup, False.elim⟩

end Object

theorem forall_mem_option_map {α β : Type} {f : α → β} {P : β → Prop} {x : Option (List α)}
    (h : ∀ as ∈ x, ∀ a ∈ as, P (f a)) : ∀ bs ∈ x.map (·.map f), ∀ b ∈ bs, P b := by
  intro bs hbs b hb
  obtain ⟨as, has, rfl⟩ := Option.map_eq_some_iff.mp hbs
  obtain ⟨a, ha, rfl⟩ := List.mem_map.mp hb
  exact h as has a ha

/-! A pod remains well formed with other values in its objects. -/

theorem EnvVar.Wellformed.values {e : EnvVar} (h : e.Wellformed strict False) :
    (e.mapObjects (.values g)).Wellformed strict False := by
  refine ⟨fun o ho => ?_, h.unknown.mapValues⟩
  obtain ⟨p, hp, rfl⟩ := Option.map_eq_some_iff.mp ho
  exact (h.valueFrom p hp).mapValues

theorem Container.Wellformed.values {c : Container} (h : c.Wellformed strict False) :
    (c.mapObjects (.values g)).Wellformed strict False := by
  refine ⟨?_, ?_, fun s hs => ?_, h.unknown.mapValues⟩
  · exact forall_mem_option_map fun es hes e he => (h.env es hes e he).values
  · exact forall_mem_option_map fun ms hms m hm => ⟨(h.volumeMounts ms hms m hm).unknown.mapValues⟩
  · obtain ⟨t, ht, rfl⟩ := Option.map_eq_some_iff.mp hs
    exact ⟨(h.securityContext t ht).unknown.mapValues⟩

theorem Volume.Wellformed.values {v : Volume} (h : v.Wellformed strict False) :
    (v.mapObjects (.values g)).Wellformed strict False := by
  refine ⟨fun o ho => ?_, fun o ho => ?_, h.unknown.mapValues⟩
  · obtain ⟨p, hp, rfl⟩ := Option.map_eq_some_iff.mp ho
    exact (h.emptyDir p hp).mapValues
  · obtain ⟨p, hp, rfl⟩ := Option.map_eq_some_iff.mp ho
    exact (h.projected p hp).mapValues

theorem PodSpec.Wellformed.values {s : PodSpec} (h : s.Wellformed strict False) :
    (s.mapObjects (.values g)).Wellformed strict False := by
  refine ⟨?_, fun c hc => ?_, ?_, h.unknown.mapValues⟩
  · exact forall_mem_option_map fun cs hcs c hc => (h.initContainers cs hcs c hc).values
  · obtain ⟨d, hd, rfl⟩ := List.mem_map.mp hc
    exact (h.containers d hd).values
  · exact forall_mem_option_map fun vs hvs v hv => (h.volumes vs hvs v hv).values

theorem Pod.Wellformed.values {p : Pod} (h : p.Wellformed strict False) :
    (p.mapObjects (.values g)).Wellformed strict False :=
  ⟨⟨h.metadata.labels, h.metadata.annotations, h.metadata.unknown.mapValues⟩, h.spec.values,
    h.unknown.mapValues⟩

end Sidecar
