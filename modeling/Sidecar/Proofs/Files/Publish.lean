import Mathlib.Data.List.Infix
import Sidecar.Proofs.Files.Path
import Sidecar.Proofs.Files.Tree

/-!
What publishing a file at a plain path leaves behind: the file, if it succeeds, and in any case no more
than directories on the way to it.
-/

namespace Sidecar.FileTree

variable {t t' t'' : FileTree} {p : FilePath} {q place dir dir' : Place} {names : List String}
  {written written' : List Place} {content : Content} {e : FileError}

/-- The place that a path starts from. -/
def origin (t : FileTree) (p : FilePath) : Place := if p.anchor = "" then t.workingDirectory else []

/-- The place that a plain path stands for, whether or not it leads there. -/
def placeOf (t : FileTree) (p : FilePath) : Place := t.origin p ++ p.parts

/-- Plain names lead to the place that they spell, if all before the last one are directories. -/
theorem follow_eq_ok_iff (hplain : ∀ name ∈ names, name ≠ "." ∧ name ≠ "..") :
    t.follow place names = .ok q ↔ q = place ++ names ∧
      ∀ above, above <+: names → above ≠ names → t.entry? (place ++ above) = some .directory := by
  induction names generalizing place with
  | nil => simp [follow, eq_comm (a := q)]
  | cons name names ih =>
    obtain ⟨⟨hdot, hup⟩, hrest⟩ := List.forall_mem_cons.mp hplain
    have hnext : next place name = place ++ [name] := by simp [next, hdot, hup]
    rw [follow_cons_eq_ok_iff, hnext, ih hrest]
    constructor
    · rintro ⟨hentry, hq, habove⟩
      refine ⟨by simpa using hq, fun above hleads hne => ?_⟩
      rcases List.prefix_cons_iff.mp hleads with rfl | ⟨above', rfl, hleads'⟩
      · simpa using hentry
      · have hne' : above' ≠ names := fun heq => hne (heq ▸ rfl)
        simpa using habove above' hleads' hne'
    · rintro ⟨rfl, habove⟩
      refine ⟨?_, by simp, fun above hleads hne => ?_⟩
      · simpa using habove [] List.nil_prefix (List.cons_ne_nil _ _).symm
      · have hcons : name :: above <+: name :: names := List.cons_prefix_cons.mpr ⟨rfl, hleads⟩
        simpa using habove (name :: above) hcons fun heq => hne (List.cons.inj heq).2

theorem locate_eq_ok_iff (hp : p.Downward) : t.locate p = .ok q ↔ q = t.placeOf p ∧
    ∀ above, above <+: p.parts → above ≠ p.parts → t.entry? (t.origin p ++ above) = some .directory :=
  follow_eq_ok_iff hp

theorem placeOf_congr (h : t'.workingDirectory = t.workingDirectory) (p : FilePath) :
    t'.placeOf p = t.placeOf p := by
  rw [placeOf, placeOf, origin, origin, h]

/-- Whatever is in a tree is in a directory. -/
def Rooted (t : FileTree) : Prop := ∀ e ∈ t.entries, t.entry? e.1.dropLast = some .directory

instance (t : FileTree) : Decidable t.Rooted := inferInstanceAs (Decidable (∀ e ∈ t.entries, _))

theorem Rooted.parent (h : t.Rooted) {name : String} (hentry : t.entry? (place ++ [name]) ≠ none) :
    t.entry? place = some .directory := by
  have hsome : (t.entries.lookup (place ++ [name])).isSome = true := by
    rw [ entry?, if_neg (by simp)] at hentry
    exact Option.isSome_iff_ne_none.mpr hentry
  obtain ⟨entry, hlookup⟩ := Option.isSome_iff_exists.mp hsome
  obtain ⟨front, back, hentries, -⟩ := List.lookup_eq_some_iff.mp hlookup
  have hmem : (place ++ [name], entry) ∈ t.entries := by simp [hentries]
  simpa using h _ hmem

/-- All that leads to an entry are directories. -/
theorem Rooted.above (h : t.Rooted) {below : List String} (hbelow : below ≠ [])
    (hentry : t.entry? (place ++ below) ≠ none) : t.entry? place = some .directory := by
  -- from the last name up, each is in a directory
  induction below using List.reverseRecOn with
  | nil => exact absurd rfl hbelow
  | append_singleton below name ih =>
    rw [← List.append_assoc] at hentry
    have hparent := h.parent hentry
    by_cases hnil : below = []
    · simpa [hnil] using hparent
    · exact ih hnil (by simp [hparent])

/-- In a rooted tree a path leads to the place that it stands for, if there is something. -/
theorem Rooted.locate (h : t.Rooted) (hp : p.Downward) (hentry : t.entry? (t.placeOf p) ≠ none) :
    t.locate p = .ok (t.placeOf p) := by
  refine (locate_eq_ok_iff hp).mpr ⟨rfl, fun above hleads hne => ?_⟩
  obtain ⟨below, hbelow⟩ := hleads
  have hnil : below ≠ [] := fun heq => hne (by simpa [heq] using hbelow)
  rw [placeOf, ← hbelow, ← List.append_assoc] at hentry
  exact h.above hnil hentry

/-- What happens to a tree in which some places are written to: apart from them, there are at most new
directories, and those lead to a certain place. -/
structure Grown (dir : Place) (written : List Place) (t t' : FileTree) : Prop where
  others : ∀ q, q ∉ written → t'.entry? q = t.entry? q ∨
    q <+: dir ∧ t.entry? q = none ∧ t'.entry? q = some .directory
  keeps : t.Keeps t'

namespace Grown

protected theorem refl (dir : Place) (t : FileTree) : Grown dir [] t t := ⟨fun _ _ => .inl rfl, .refl t⟩

protected theorem trans (h : Grown dir written t t') (h' : Grown dir written' t' t'') :
    Grown dir (written ++ written') t t'' where
  others q hq := by
    obtain ⟨hnot, hnot'⟩ := not_or.mp (mt List.mem_append.mpr hq)
    rcases h'.others q hnot' with heq | ⟨hleads, hnone, hnew⟩
    · rw [heq]
      exact h.others q hnot
    · rcases h.others q hnot with heq | ⟨-, -, hdirectory⟩
      · exact .inr ⟨hleads, heq ▸ hnone, hnew⟩
      · rw [hdirectory] at hnone
        nomatch hnone
  keeps := h.keeps.trans h'.keeps

theorem mono (h : Grown dir written t t') (hdir : dir <+: dir') : Grown dir' written t t' where
  others q hq := (h.others q hq).imp_right fun hnew => ⟨hnew.1.trans hdir, hnew.2⟩
  keeps := h.keeps

end Grown

theorem readFile_plain_iff (hp : p.Plain) : t.readFile p = .ok content ↔
    t.locate p = .ok (t.placeOf p) ∧ t.entry? (t.placeOf p) = some (.file content) := by
  rw [readFile_eq_ok_iff]
  constructor
  · rintro ⟨place, hlocate, -, hentry⟩
    obtain ⟨rfl, -⟩ := (locate_eq_ok_iff hp.downward).mp hlocate
    exact ⟨hlocate, hentry⟩
  · rintro ⟨hlocate, hentry⟩
    exact ⟨t.placeOf p, hlocate, hp.ofFile, hentry⟩

/-- A file that is not written to can be read as before. -/
theorem Grown.readFile (h : Grown dir written t t') (hp : p.Plain) (hnot : t.placeOf p ∉ written)
    (hread : t.readFile p = .ok content) : t'.readFile p = .ok content := by
  obtain ⟨hlocate, hentry⟩ := (readFile_plain_iff hp).mp hread
  rw [readFile_plain_iff hp, placeOf_congr h.keeps.workingDirectory]
  rcases h.others _ hnot with heq | ⟨-, hnone, -⟩
  · exact ⟨h.keeps.locate hlocate, heq.trans hentry⟩
  · rw [hnone] at hentry
    nomatch hentry

/-- A file that has not been written to could be read before, also where directories have come to be. -/
theorem Grown.readFile_of (h : Grown dir written t t') (htree : t.Rooted) (hp : p.Plain)
    (hnot : t.placeOf p ∉ written) (hread : t'.readFile p = .ok content) :
    t.readFile p = .ok content := by
  obtain ⟨-, hentry⟩ := (readFile_plain_iff hp).mp hread
  rw [placeOf_congr h.keeps.workingDirectory] at hentry
  rcases h.others _ hnot with heq | ⟨-, -, hdirectory⟩
  · rw [heq] at hentry
    exact (readFile_plain_iff hp).mpr ⟨htree.locate hp.downward (by simp [hentry]), hentry⟩
  · rw [hdirectory] at hentry
    nomatch hentry

theorem grown_put_directory (hnone : t.entry? place = none) :
    Grown place [] t (t.put place .directory) where
  others q _ := by
    by_cases hq : q = place
    · subst hq
      have hnil : q ≠ [] := by
        rintro rfl
        simp [ entry?] at hnone
      exact .inr ⟨List.prefix_refl q, hnone, entry?_put_self hnil⟩
    · exact .inl (entry?_put_of_ne hq)
  keeps := keeps_put (by simp [hnone])

theorem grown_put_file (hentry : t.entry? place ≠ some .directory) :
    Grown dir [place] t (t.put place (.file content)) where
  others q hq := .inl (entry?_put_of_ne (by simpa using hq))
  keeps := keeps_put hentry

theorem grown_of_ensureDirectory (hp : p.Downward) (h : t.ensureDirectory p = .ok t') :
    Grown (t.placeOf p) [] t t' := by
  unfold ensureDirectory at h
  split at h
  · next made hmade =>
    obtain rfl := Except.ok.inj h
    obtain ⟨place, hlocate, hnone, rfl⟩ := makeDirectory_eq_ok_iff.mp hmade
    obtain ⟨rfl, -⟩ := (locate_eq_ok_iff hp).mp hlocate
    exact grown_put_directory hnone
  · split at h
    · obtain rfl := Except.ok.inj h
      exact .refl _ _
    · nomatch h

/-- The directories that have been made stay, also where a later one cannot be made. -/
theorem grown_ensureAll (anchor : String) (t : FileTree)
    (hplain : ∀ name ∈ names, name ≠ "." ∧ name ≠ "..") :
    Grown (t.placeOf { anchor, parts := names.reverse }) [] t (ensureAll anchor names t).1 := by
  have hdown {names : List String} (h : ∀ name ∈ names, name ≠ "." ∧ name ≠ "..") :
      FilePath.Downward { anchor, parts := names.reverse } :=
    fun name hname => h name (List.mem_reverse.mp hname)
  have hleads (t : FileTree) (name : String) (above : List String) :
      t.placeOf { anchor, parts := above.reverse } <+:
        t.placeOf { anchor, parts := (name :: above).reverse } := by
    simp only [placeOf, List.reverse_cons, ← List.append_assoc]
    exact List.prefix_append _ _
  -- the directory is made at once, or after those above it, or one of them stands in the way
  fun_induction ensureAll anchor names t with
  | case1 names t p made hmade => exact grown_of_ensureDirectory (hdown hplain) hmade
  | case2 t name above made e hall p _ ih | case4 t name above made hall obstacle p _ _ ih =>
    have habove := ih (List.forall_mem_cons.mp hplain).2
    rw [hall] at habove
    exact habove.mono (hleads t name above)
  | case3 t name above made hall last p _ hlast ih =>
    have habove := ih (List.forall_mem_cons.mp hplain).2
    rw [hall] at habove
    have hmade := habove.mono (hleads t name above)
    have hgrown := grown_of_ensureDirectory (hdown hplain) hlast
    rw [placeOf_congr hmade.keeps.workingDirectory] at hgrown
    exact hmade.trans hgrown
  | case5 => exact .refl _ _

theorem error_of_ensureAll {anchor : String} (h : (ensureAll anchor names t).2 = some e) :
    ∃ obstacle path, e = .obstructed obstacle path := by
  fun_induction ensureAll anchor names t with
  | case1 | case3 => nomatch h
  | case2 t name above made e' hall p _ ih =>
    rw [hall] at ih
    exact ih h
  | case4 | case5 => exact ⟨_, _, (Option.some.inj h).symm⟩

/-- All that can come of publishing a file. -/
inductive PublishOutcome (t : FileTree) (p : FilePath) (content : Content) :
    FileTree × Option FileError → Prop where
  | written {t' : FileTree} (hgrown : Grown (t.placeOf p.parent) [t.placeOf p] t t')
    (hholds : t'.readFile p = .ok content) : PublishOutcome t p content (t', none)
  | stopped {t' : FileTree} {obstacle : Obstacle} {path : String}
    (hgrown : Grown (t.placeOf p.parent) [] t t') :
    PublishOutcome t p content (t', some (.obstructed obstacle path))

theorem publishOutcome (hp : p.Plain) (t : FileTree) (content : Content) :
    PublishOutcome t p content (t.publish p content) := by
  have hparent : ∀ name ∈ p.parent.parts.reverse, name ≠ "." ∧ name ≠ ".." := by
    intro name hname
    exact hp.downward name (List.dropLast_subset _ (List.mem_reverse.mp hname))
  have hgrown : Grown (t.placeOf p.parent) [] t (ensureAll p.anchor p.parent.parts.reverse t).1 := by
    have h := grown_ensureAll p.anchor t hparent
    rw [List.reverse_reverse] at h
    exact h
  unfold publish
  rw [hp.noNul]
  cases hall : ensureAll p.anchor p.parent.parts.reverse t with
  | mk made failed =>
    rw [hall] at hgrown
    cases failed with
    | some e =>
      obtain ⟨obstacle, path, rfl⟩ := error_of_ensureAll (congrArg Prod.snd hall)
      exact .stopped hgrown
    | none =>
      cases hwrite : made.writeFile p content with
      | error obstacle =>
        simp only [Bool.false_eq_true, if_false, hwrite]
        exact .stopped hgrown
      | ok t' =>
        simp only [Bool.false_eq_true, if_false, hwrite]
        obtain ⟨place, hlocate, -, hentry, rfl⟩ := writeFile_eq_ok_iff.mp hwrite
        obtain ⟨rfl, -⟩ := (locate_eq_ok_iff hp.downward).mp hlocate
        rw [placeOf_congr hgrown.keeps.workingDirectory] at hentry hwrite ⊢
        exact .written (hgrown.trans (grown_put_file hentry)) (wrote_of_writeFile hwrite).holds

end Sidecar.FileTree
