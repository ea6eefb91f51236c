import Sidecar.Files.Tree

/-!
What operations leave behind of a tree. A file is replaced at its own place only, and a directory stays
one, so that paths lead to where they have led before.
-/

namespace Sidecar.FileTree

variable {t t' t'' : FileTree} {place q : Place} {entry : FileEntry} {p : FilePath}
  {content : Content} {names : List String}

theorem lookup_map_entry (es : List (Place × FileEntry)) (place q : Place) (entry : FileEntry) :
    (es.map fun e => (e.1, if e.1 = place then entry else e.2)).lookup q =
      if q = place then (es.lookup q).map fun _ => entry else es.lookup q := by
  induction es with
  | nil => simp
  | cons e es ih =>
    obtain ⟨r, e⟩ := e
    by_cases hr : q = r
    · by_cases hq : q = place <;> simp [← hr, hq]
    · have hne : (q == r) = false := by simp [hr]
      simp [List.lookup_cons, hne, ih]

theorem lookup_put (t : FileTree) (place q : Place) (entry : FileEntry) :
    (t.put place entry).entries.lookup q = if q = place then some entry else t.entries.lookup q := by
  unfold put
  by_cases hsome : (t.entries.lookup place).isSome = true
  · obtain ⟨e, he⟩ := Option.isSome_iff_exists.mp hsome
    rw [if_pos hsome]
    refine (lookup_map_entry t.entries place q entry).trans ?_
    by_cases hq : q = place <;> simp [hq, he]
  · have hnone : t.entries.lookup place = none := Option.not_isSome_iff_eq_none.mp hsome
    rw [if_neg hsome, List.lookup_append]
    by_cases hq : q = place
    · simp [hq, hnone]
    · have hne : (q == place) = false := by simp [hq]
      simp [hq, hne, List.lookup_cons]

theorem entry?_put_self (h : place ≠ []) : entry? (t.put place entry) place = some entry := by
  simp [ entry?, h, lookup_put]

theorem entry?_put_of_ne (h : q ≠ place) : entry? (t.put place entry) q = t.entry? q := by
  simp [ entry?, h, lookup_put]

@[simp] theorem put_workingDirectory : (t.put place entry).workingDirectory = t.workingDirectory := by
  unfold put
  split <;> rfl

/-- The place that a name leads to from a directory. -/
def next (place : Place) (name : String) : Place :=
  if name = "." then place else if name = ".." then place.dropLast else place ++ [name]

theorem follow_cons_eq_ok_iff {name : String} : t.follow place (name :: names) = .ok q ↔
    t.entry? place = some .directory ∧ t.follow (next place name) names = .ok q := by
  unfold next
  rw [follow]
  cases t.entry? place with
  | none => simp
  | some entry =>
    cases entry with
    | file content => simp
    | directory =>
      by_cases hdot : name = "."
      · simp [hdot]
      · by_cases hup : name = ".." <;> simp [hdot, hup]

/-- The directories of a tree are there in another one, too. -/
structure Keeps (t t' : FileTree) : Prop where
  directory : ∀ place, t.entry? place = some .directory → t'.entry? place = some .directory
  workingDirectory : t'.workingDirectory = t.workingDirectory

namespace Keeps

protected theorem refl (t : FileTree) : t.Keeps t := ⟨fun _ h => h, rfl⟩

protected theorem trans (h : t.Keeps t') (h' : t'.Keeps t'') : t.Keeps t'' :=
  ⟨fun place hplace => h'.directory place (h.directory place hplace),
    h'.workingDirectory.trans h.workingDirectory⟩

/-- A path leads through directories only. -/
theorem follow (h : t.Keeps t') (hfollow : t.follow place names = .ok q) :
    t'.follow place names = .ok q := by
  induction names generalizing place with
  | nil => exact hfollow
  | cons name names ih =>
    obtain ⟨hentry, hrest⟩ := follow_cons_eq_ok_iff.mp hfollow
    exact follow_cons_eq_ok_iff.mpr ⟨h.directory place hentry, ih hrest⟩

theorem locate (h : t.Keeps t') (hlocate : t.locate p = .ok q) : t'.locate p = .ok q := by
  rw [FileTree.locate, h.workingDirectory]
  exact h.follow hlocate

end Keeps

/-- What is put in the place of anything but a directory keeps the directories. -/
theorem keeps_put (h : t.entry? place ≠ some .directory) : t.Keeps (t.put place entry) where
  directory q hq := by
    have hne : q ≠ place := fun heq => h (heq ▸ hq)
    rw [entry?_put_of_ne hne, hq]
  workingDirectory := put_workingDirectory

theorem ne_nil_of_entry_ne (h : t.entry? place ≠ some .directory) : place ≠ [] := by
  intro hnil
  simp [ entry?, hnil] at h

theorem readFile_eq_ok_iff : t.readFile p = .ok content ↔
    ∃ place, t.locate p = .ok place ∧ p.ofDirectory = false ∧
      t.entry? place = some (.file content) := by
  unfold readFile find
  cases hlocate : t.locate p with
  | error obstacle => simp [bind, Except.bind]
  | ok place =>
    simp only [Except.ok.injEq, exists_eq_left', bind, Except.bind]
    cases t.entry? place with
    | none => simp [throw, throwThe, MonadExceptOf.throw]
    | some entry =>
      cases entry with
      | directory => simp [pure, Except.pure, throw, throwThe, MonadExceptOf.throw]
      | file found =>
        cases p.ofDirectory <;> simp [pure, Except.pure, throw, throwThe, MonadExceptOf.throw]

theorem isDirectory_eq_true_iff : t.isDirectory p = true ↔
    ∃ place, t.locate p = .ok place ∧ t.entry? place = some .directory := by
  unfold isDirectory find
  cases hlocate : t.locate p with
  | error obstacle => simp [bind, Except.bind]
  | ok place =>
    simp only [Except.ok.injEq, exists_eq_left', bind, Except.bind]
    cases t.entry? place with
    | none => simp [throw, throwThe, MonadExceptOf.throw]
    | some entry =>
      cases entry with
      | directory => simp [pure, Except.pure]
      | file found =>
        cases p.ofDirectory <;> simp [pure, Except.pure, throw, throwThe, MonadExceptOf.throw]

theorem writeFile_eq_ok_iff : t.writeFile p content = .ok t' ↔
    ∃ place, t.locate p = .ok place ∧ p.ofDirectory = false ∧ t.entry? place ≠ some .directory ∧
      t' = t.put place (.file content) := by
  unfold writeFile
  cases hlocate : t.locate p with
  | error obstacle => simp [bind, Except.bind]
  | ok place =>
    simp only [Except.ok.injEq, exists_eq_left', bind, Except.bind]
    by_cases hentry : t.entry? place = some .directory
    · simp [hentry, throw, throwThe, MonadExceptOf.throw]
    · cases p.ofDirectory <;>
        simp [hentry, pure, Except.pure, throw, throwThe, MonadExceptOf.throw, eq_comm (a := t')]

theorem makeDirectory_eq_ok_iff : t.makeDirectory p = .ok t' ↔
    ∃ place, t.locate p = .ok place ∧ t.entry? place = none ∧ t' = t.put place .directory := by
  unfold makeDirectory
  cases hlocate : t.locate p with
  | error obstacle => simp [bind, Except.bind]
  | ok place =>
    simp only [Except.ok.injEq, exists_eq_left', bind, Except.bind]
    cases t.entry? place <;>
      simp [pure, Except.pure, throw, throwThe, MonadExceptOf.throw, eq_comm (a := t')]

/-- A file has been written: a path leads to its content, and nothing else has changed. -/
structure Wrote (t : FileTree) (p : FilePath) (content : Content) (t' : FileTree) : Prop where
  holds : t'.readFile p = .ok content
  others : ∃ place, t.locate p = .ok place ∧ ∀ q, q ≠ place → t'.entry? q = t.entry? q
  workingDirectory : t'.workingDirectory = t.workingDirectory

theorem wrote_of_writeFile (h : t.writeFile p content = .ok t') : t.Wrote p content t' := by
  obtain ⟨place, hlocate, hof, hentry, rfl⟩ := writeFile_eq_ok_iff.mp h
  have hkeeps : t.Keeps (t.put place (.file content)) := keeps_put hentry
  have hself : entry? (t.put place (.file content)) place = some (.file content) :=
    entry?_put_self (ne_nil_of_entry_ne hentry)
  exact {
    holds := readFile_eq_ok_iff.mpr ⟨place, hkeeps.locate hlocate, hof, hself⟩
    others := ⟨place, hlocate, fun q hq => entry?_put_of_ne hq⟩
    workingDirectory := hkeeps.workingDirectory }

end Sidecar.FileTree
