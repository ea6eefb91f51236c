import Sidecar.Files.Path

/-!
Plain paths: no name in them leads upwards, and system calls can be given them.
-/

namespace Sidecar.FilePath

variable {cs part : List Char} {s : String} {p : FilePath}

theorem splitSlashes_ne_nil (cs : List Char) : splitSlashes cs ≠ [] := by
  induction cs with
  | nil => simp [splitSlashes]
  | cons c cs ih =>
    unfold splitSlashes
    split
    · simp
    · simp
    · split <;> simp

theorem splitSlashes_append_slash (cs ds : List Char) :
    splitSlashes (cs ++ '/' :: ds) = splitSlashes cs ++ splitSlashes ds := by
  induction cs with
  | nil => simp [splitSlashes]
  | cons c cs ih =>
    by_cases hc : c = '/'
    · subst hc
      simp [splitSlashes, ih]
    · cases hparts : splitSlashes cs with
      | nil => exact absurd hparts (splitSlashes_ne_nil cs)
      | cons part parts =>
        rw [hparts] at ih
        simp [splitSlashes, ih, hparts]

theorem mem_of_mem_splitSlashes (h : part ∈ splitSlashes cs) {c : Char} (hc : c ∈ part) : c ∈ cs := by
  induction cs generalizing part with
  | nil =>
    obtain rfl : part = [] := by simpa [splitSlashes] using h
    nomatch hc
  | cons d cs ih =>
    by_cases hd : d = '/'
    · subst hd
      rcases List.mem_cons.mp (by simpa [splitSlashes] using h) with rfl | hpart
      · nomatch hc
      · exact List.mem_cons_of_mem _ (ih hpart hc)
    · cases hparts : splitSlashes cs with
      | nil => exact absurd hparts (splitSlashes_ne_nil cs)
      | cons first rest =>
        rw [hparts] at ih
        rcases List.mem_cons.mp (by simpa [splitSlashes, hd, hparts] using h) with rfl | hpart
        · rcases List.mem_cons.mp hc with rfl | hfirst
          · exact List.mem_cons_self
          · exact List.mem_cons_of_mem _ (ih List.mem_cons_self hfirst)
        · exact List.mem_cons_of_mem _ (ih (List.mem_cons_of_mem _ hpart) hc)

theorem plainNames_append_slash (s s' : String) :
    plainNames (s ++ "/" ++ s') = plainNames s ++ plainNames s' := by
  have hnames : names (s ++ "/" ++ s') = names s ++ names s' := by
    have hlist : (s ++ "/" ++ s').toList = s.toList ++ '/' :: s'.toList := by simp
    rw [names, hlist, splitSlashes_append_slash, List.map_append]
    rfl
  rw [plainNames, hnames, List.filter_append]
  rfl

/-- A text whose names lead downwards only, and are fit for system calls. -/
structure PlainText (s : String) : Prop where
  noNul : '\x00' ∉ s.toList
  noParent : ".." ∉ names s

/-- Every name of a path is that of something in the directory before it. -/
def Downward (p : FilePath) : Prop := ∀ name ∈ p.parts, name ≠ "." ∧ name ≠ ".."

/-- A path whose names lead downwards only, and are fit for system calls. -/
structure Plain (p : FilePath) : Prop where
  noNul : p.hasNul = false
  downward : p.Downward
  ofFile : p.ofDirectory = false

theorem PlainText.mem_plainNames (h : PlainText s) {name : String} (hname : name ∈ plainNames s) :
    '\x00' ∉ name.toList ∧ name ≠ "." ∧ name ≠ ".." := by
  obtain ⟨hmem, hplain⟩ := List.mem_filter.mp hname
  have hparent : name ≠ ".." := fun heq => h.noParent (heq ▸ hmem)
  have hdot : name ≠ "" ∧ name ≠ "." := by simpa using hplain
  refine ⟨fun hnul => h.noNul ?_, hdot.2, hparent⟩
  obtain ⟨part, hpart, rfl⟩ := List.mem_map.mp hmem
  exact mem_of_mem_splitSlashes hpart (by simpa using hnul)

theorem Plain.under (hp : p.Plain) (hs : PlainText s) : (p.under s).Plain where
  noNul := by
    have hnul : ((plainNames s).any fun name => name.toList.contains '\x00') = false := by
      simp only [List.any_eq_false, List.contains_iff_mem]
      exact fun name hname => (hs.mem_plainNames hname).1
    have hbase := hp.noNul
    rw [hasNul] at hbase
    rw [hasNul, FilePath.under, List.any_append, hbase, hnul, Bool.or_false]
  downward name hname := by
    rcases List.mem_append.mp hname with hbase | hbelow
    · exact hp.downward name hbase
    · exact (hs.mem_plainNames hbelow).2
  ofFile := hp.ofFile

theorem plain_ofText (h : PlainText s) : (ofText s).Plain := by
  have hbase : (FilePath.mk (anchorOf s) [] false).Plain := ⟨rfl, fun _ hname => (nomatch hname), rfl⟩
  exact hbase.under h

theorem PlainText.append_slash {s' : String} (h : PlainText s) (h' : PlainText s') :
    PlainText (s ++ "/" ++ s') where
  noNul := by simpa [h.noNul] using h'.noNul
  noParent := by
    have hlist : (s ++ "/" ++ s').toList = s.toList ++ '/' :: s'.toList := by simp
    rw [names, hlist, splitSlashes_append_slash, List.map_append, List.mem_append, not_or]
    exact ⟨h.noParent, h'.noParent⟩

end Sidecar.FilePath
