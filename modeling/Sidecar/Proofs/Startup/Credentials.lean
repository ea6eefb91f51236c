import Sidecar.Credentials
import Sidecar.Proofs.Files.Publish

/-!
The credential files that are in place after the steps of publishing them. A step that fails leaves the
files of the steps before it, and none of its own.
-/

namespace Sidecar

/-- All paths in the settings lead downwards, and are fit for system calls. -/
structure Settings.Plain (s : Settings) : Prop where
  root : FilePath.PlainText s.fsRoot
  redirect : FilePath.PlainText s.injection.redirectMountPath
  account : FilePath.PlainText s.injection.serviceAccountPath

namespace Credentials

open FileTree (Grown)

/-- The names of the files, in the order in which they are written. -/
def fileNames : List String := ["ca.crt", "namespace", "token"]

/-- The directory that the files are written to. -/
def directory (s : Settings) : FilePath := resolve s s.injection.redirectMountPath

/-- What a file is to hold, by the namespace that is given and by the files that were there before. -/
inductive Credential (s : Settings) (given : Option (List UInt8)) (t : FileTree) (authority : Certificate) :
    String → Content → Prop where
  | authority : Credential s given t authority "ca.crt" (.certificate authority)
  | given {bytes : List UInt8} (hset : given = some bytes) (hne : bytes ≠ []) :
    Credential s given t authority "namespace" (.bytes bytes)
  | copied {content : Content} (hunset : ∀ bytes, given = some bytes → bytes = [])
    (hread : t.readFile (namespaceSource s) = .ok content) :
    Credential s given t authority "namespace" content
  | token : Credential s given t authority "token" (.bytes [45])

/-- Of the files in a tree, those with certain names have been written, and hold what they are to. All that
has changed besides is that there may be new directories on the way to them. -/
structure Leaves (s : Settings) (given : Option (List UInt8)) (authority : Certificate) (names : List String)
    (t t' : FileTree) : Prop where
  holds : ∀ name ∈ names, ∃ content, Credential s given t authority name content ∧
    t'.readFile (target s name) = .ok content
  grown : Grown (t.placeOf (directory s)) (names.map fun name => t.placeOf (target s name)) t t'

end Credentials

/-- The files that are in place when a step begins. -/
def CredentialStep.done : CredentialStep → List String
  | .authority => []
  | .readNamespace | .writeNamespace => ["ca.crt"]
  | .token => ["ca.crt", "namespace"]

namespace Credentials

open FileTree (Grown)

variable {s : Settings} {given : Option (List UInt8)} {t t' : FileTree} {authority : Certificate}
  {name : String} {names : List String} {content : Content} {note : String}

theorem plain_fileNames (h : name ∈ fileNames) :
    FilePath.PlainText name ∧ FilePath.plainNames name = [name] := by
  simp only [fileNames, List.mem_cons, List.not_mem_nil, or_false] at h
  rcases h with rfl | rfl | rfl <;> exact ⟨⟨by decide, by decide⟩, by decide⟩

theorem plain_target (hs : s.Plain) (hname : name ∈ fileNames) : (target s name).Plain :=
  (FilePath.plain_ofText hs.root).under (hs.redirect.append_slash (plain_fileNames hname).1)

theorem namespaceSource_eq (s : Settings) :
    namespaceSource s = resolve s (s.injection.serviceAccountPath ++ "/" ++ "namespace") := by
  rw [String.append_assoc]
  rfl

theorem plain_namespaceSource (hs : s.Plain) : (namespaceSource s).Plain := by
  have hname : FilePath.PlainText "namespace" := (plain_fileNames (by decide)).1
  rw [namespaceSource_eq]
  exact (FilePath.plain_ofText hs.root).under (hs.account.append_slash hname)

/-- The files lie in the directory under their own names. -/
theorem target_eq (hname : name ∈ fileNames) :
    target s name = { directory s with parts := (directory s).parts ++ [name] } := by
  have hparts := FilePath.plainNames_append_slash s.injection.redirectMountPath name
  rw [(plain_fileNames hname).2] at hparts
  simp [target, directory, resolve, FilePath.under, hparts]

theorem placeOf_target (t : FileTree) (hname : name ∈ fileNames) :
    t.placeOf (target s name) = t.placeOf (directory s) ++ [name] := by
  rw [target_eq hname, FileTree.placeOf, FileTree.placeOf, ← List.append_assoc]
  rfl

theorem parent_target (hname : name ∈ fileNames) : (target s name).parent = directory s := by
  rw [target_eq hname, FilePath.parent, List.dropLast_concat]

/-- The certificate is never written over the file that the namespace is taken from. -/
theorem placeOf_namespaceSource_ne (t : FileTree) (s : Settings) :
    t.placeOf (namespaceSource s) ≠ t.placeOf (target s "ca.crt") := by
  have hparts := FilePath.plainNames_append_slash s.injection.serviceAccountPath "namespace"
  have hname : "namespace" ∈ fileNames := by decide
  rw [(plain_fileNames hname).2] at hparts
  rw [placeOf_target t (by decide), namespaceSource_eq, resolve, FilePath.under, hparts,
    FileTree.placeOf, ← List.append_assoc, ← List.append_assoc]
  intro heq
  have hlast := congrArg List.getLast? heq
  rw [List.getLast?_concat, List.getLast?_concat] at hlast
  exact absurd hlast (by decide)

theorem Credential.mem_fileNames (h : Credential s given t authority name content) : name ∈ fileNames := by
  cases h <;> decide

/-- Without a namespace of its own, the namespace file is a copy. -/
theorem Credential.copied_of_unset (h : Credential s given t authority "namespace" content)
    (hunset : ∀ bytes, given = some bytes → bytes = []) :
    t.readFile (namespaceSource s) = .ok content := by
  generalize hname : "namespace" = name at h
  cases h with
  | authority | token => exact absurd hname (by decide)
  | given hset hne => exact absurd (hunset _ hset) hne
  | copied _ hread => exact hread

namespace Leaves

protected theorem nil (s : Settings) (given : Option (List UInt8)) (authority : Certificate) (t : FileTree) :
    Leaves s given authority [] t t where
  holds _ hname := nomatch hname
  grown := .refl _ t

theorem mem_fileNames (h : Leaves s given authority names t t') (hname : name ∈ names) :
    name ∈ fileNames := by
  obtain ⟨content, hcontent, -⟩ := h.holds name hname
  exact hcontent.mem_fileNames

/-- Directories on the way do not touch the files. -/
theorem directories {t'' : FileTree} (hs : s.Plain) (h : Leaves s given authority names t t')
    (hgrown : Grown (t'.placeOf (directory s)) [] t' t'') : Leaves s given authority names t t'' where
  holds name hname := by
    obtain ⟨content, hcontent, hread⟩ := h.holds name hname
    have hplain := plain_target hs (h.mem_fileNames hname)
    exact ⟨content, hcontent, hgrown.readFile hplain List.not_mem_nil hread⟩
  grown := by
    rw [FileTree.placeOf_congr h.grown.keeps.workingDirectory] at hgrown
    simpa using h.grown.trans hgrown

/-- One more file does not touch the others. -/
theorem append {t'' : FileTree} (hs : s.Plain) (h : Leaves s given authority names t t')
    (hnew : name ∉ names) (hcontent : Credential s given t authority name content)
    (hgrown : Grown (t'.placeOf (directory s)) [t'.placeOf (target s name)] t' t'')
    (hread : t''.readFile (target s name) = .ok content) :
    Leaves s given authority (names ++ [name]) t t'' where
  holds other hother := by
    rcases List.mem_append.mp hother with hold | hlast
    · obtain ⟨content, hcontent', hread'⟩ := h.holds other hold
      have hplain := plain_target hs (h.mem_fileNames hold)
      have hne : t'.placeOf (target s other) ∉ [t'.placeOf (target s name)] := by
        rw [placeOf_target t' (h.mem_fileNames hold), placeOf_target t' hcontent.mem_fileNames]
        intro hmem
        have heq : other = name := by simpa using hmem
        exact hnew (heq ▸ hold)
      exact ⟨content, hcontent', hgrown.readFile hplain hne hread'⟩
    · obtain rfl := List.mem_singleton.mp hlast
      exact ⟨content, hcontent, hread⟩
  grown := by
    rw [FileTree.placeOf_congr h.grown.keeps.workingDirectory,
      FileTree.placeOf_congr h.grown.keeps.workingDirectory] at hgrown
    rw [List.map_append]
    exact h.grown.trans hgrown

end Leaves

/-- The namespace is a text, if one is given. -/
def IsText (given : Option (List UInt8)) : Prop := ∀ bytes ∈ given, (Utf8.decode? bytes).isSome = true

/-- Why a step fails: an obstacle stands in its way, or the namespace that is given is no text. -/
inductive Cause (given : Option (List UInt8)) : CredentialError → Prop where
  | obstructed (step : CredentialStep) (obstacle : Obstacle) (path : String) :
    Cause given (.file step (.obstructed obstacle path))
  | notText {bytes : List UInt8} (hgiven : ¬ IsText given) : Cause given (.notText bytes)

/-- What a step has led to: it has failed, with the files left as before it, or more of them are in place. -/
inductive StepOutcome (s : Settings) (given : Option (List UInt8)) (authority : Certificate) (t : FileTree)
    (names : List String) (p : Published) : Prop where
  | stopped {e : CredentialError} (hresult : p.result = .error e) (hcause : Cause given e)
    (hleaves : Leaves s given authority e.step.done t p.tree)
  | passed {path : FilePath} (hresult : p.result = .ok path)
    (hleaves : Leaves s given authority names t p.tree)

theorem stepOutcome_publish (step : CredentialStep) (hs : s.Plain) (h : Leaves s given authority step.done t t')
    (hnew : name ∉ step.done) (hcontent : Credential s given t authority name content) :
    StepOutcome s given authority t (step.done ++ [name])
      (publish step note (target s name) content t') := by
  have hname := hcontent.mem_fileNames
  have houtcome := FileTree.publishOutcome (plain_target hs hname) t' content
  unfold publish
  generalize t'.publish (target s name) content = result at houtcome
  cases houtcome with
  | written hgrown hholds =>
    rw [parent_target hname] at hgrown
    exact .passed rfl (h.append hs hnew hcontent hgrown hholds)
  | stopped hgrown =>
    rw [parent_target hname] at hgrown
    exact .stopped rfl (.obstructed step _ _) (h.directories hs hgrown)

theorem stepOutcome_andThen {p : Published} {next : FileTree → Published} {names' : List String}
    (h : StepOutcome s given authority t names p)
    (hnext : ∀ t', Leaves s given authority names t t' → StepOutcome s given authority t names' (next t')) :
    StepOutcome s given authority t names' (p.andThen next) := by
  unfold Published.andThen
  cases h with
  | stopped hresult hcause hleaves =>
    rw [hresult]
    exact .stopped hresult hcause hleaves
  | passed hresult hleaves =>
    rw [hresult]
    cases hnext p.tree hleaves with
    | stopped hresult' hcause' hleaves' => exact .stopped hresult' hcause' hleaves'
    | passed hresult' hleaves' => exact .passed hresult' hleaves'

/-- The namespace is read after the certificate has been written, but it is what it was before. -/
theorem stepOutcome_writeNamespace (hs : s.Plain) (htree : t.Rooted)
    (h : Leaves s given authority ["ca.crt"] t t') :
    StepOutcome s given authority t ["ca.crt", "namespace"] (writeNamespace s given t') := by
  unfold writeNamespace namespaceContent
  cases hget : given.filter (· ≠ []) with
  | some bytes =>
    obtain ⟨hset, hne⟩ := Option.filter_eq_some_iff.mp hget
    dsimp only
    cases htext : (Utf8.decode? bytes).isSome with
    | true =>
      have hcontent : Credential s given t authority "namespace" (.bytes bytes) :=
        .given hset (of_decide_eq_true hne)
      exact stepOutcome_publish .writeNamespace hs h (by decide) hcontent
    | false =>
      have hgiven : ¬ IsText given := by
        intro hall
        rw [hall bytes hset] at htext
        nomatch htext
      exact .stopped rfl (.notText hgiven) h
  | none =>
    have hplain : (namespaceSource s).Plain := plain_namespaceSource hs
    have hunset : ∀ bytes, given = some bytes → bytes = [] := by
      simpa [Option.filter_eq_none_iff] using hget
    simp only
    rw [FileTree.read, hplain.noNul]
    cases hfile : t'.readFile (namespaceSource s) with
    | error obstacle => exact .stopped rfl (.obstructed .readNamespace _ _) h
    | ok content =>
      have hnot : t.placeOf (namespaceSource s) ∉
          ["ca.crt"].map fun name => t.placeOf (target s name) := by
        simpa using placeOf_namespaceSource_ne t s
      have hcontent : Credential s given t authority "namespace" content :=
        .copied hunset (h.grown.readFile_of htree hplain hnot hfile)
      exact stepOutcome_publish .writeNamespace hs h (by decide) hcontent

/-- All files are in place, or those of the steps before the one that has failed. -/
theorem stepOutcome_publishAll (hs : s.Plain) (htree : t.Rooted) (given : Option (List UInt8))
    (authority : Certificate) :
    StepOutcome s given authority t fileNames (publishAll s given (.certificate authority) t) := by
  have hauthority : StepOutcome s given authority t ["ca.crt"] (writeAuthority s (.certificate authority) t) :=
    stepOutcome_publish .authority hs (.nil s given authority t) (by decide) .authority
  have hnamespace := stepOutcome_andThen hauthority fun t' h => stepOutcome_writeNamespace hs htree h
  apply stepOutcome_andThen hnamespace
  intro t' h
  exact stepOutcome_publish .token hs h (by decide) .token

theorem result_andThen_of_ok {p : Published} {path : FilePath} (next : FileTree → Published)
    (h : p.result = .ok path) : (p.andThen next).result = (next p.tree).result := by
  rw [Published.andThen, h]

theorem result_andThen_of_error {p : Published} {e : CredentialError} (next : FileTree → Published)
    (h : p.result = .error e) : (p.andThen next).result = .error e := by
  rw [Published.andThen, h]
  exact h

/-- A file is written or meets an obstacle, but its name is a text. -/
theorem publish_ne_notText (step : CredentialStep) (note : String) (p : FilePath) (content : Content)
    (t : FileTree) (bytes : List UInt8) : (publish step note p content t).result ≠ .error (.notText bytes) := by
  unfold publish
  obtain ⟨t', e⟩ := t.publish p content
  cases e <;> simp

theorem namespaceContent_of_not_isText (h : ¬ IsText given) (t : FileTree) :
    ∃ bytes, namespaceContent s given t = .error (.notText bytes) := by
  obtain ⟨bytes, hset, hbytes⟩ : ∃ bytes, given = some bytes ∧ ¬(Utf8.decode? bytes).isSome = true := by
    simpa [IsText] using h
  have hne : bytes ≠ [] := by
    rintro rfl
    exact hbytes rfl
  refine ⟨bytes, ?_⟩
  simp [namespaceContent, hset, Option.filter, hne, hbytes]

theorem writeNamespace_ne_notText (h : IsText given) (t : FileTree) (bytes : List UInt8) :
    (writeNamespace s given t).result ≠ .error (.notText bytes) := by
  unfold writeNamespace
  cases hcontent : namespaceContent s given t with
  | ok content => exact publish_ne_notText _ _ _ _ _ bytes
  | error e =>
    intro heq
    rw [Except.error.inj heq] at hcontent
    unfold namespaceContent at hcontent
    cases hget : given.filter (· ≠ []) with
    | some found =>
      rw [hget] at hcontent
      dsimp only at hcontent
      rw [if_pos (h found (Option.filter_eq_some_iff.mp hget).1)] at hcontent
      nomatch hcontent
    | none =>
      rw [hget] at hcontent
      dsimp only at hcontent
      split at hcontent <;> simp at hcontent

/-- Only the first step comes before the namespace is looked at. -/
theorem publishAll_notText_iff (s : Settings) (given : Option (List UInt8)) (authority : Content)
    (t : FileTree) : (∃ bytes, (publishAll s given authority t).result = .error (.notText bytes)) ↔
      (∃ path, (writeAuthority s authority t).result = .ok path) ∧ ¬ IsText given := by
  constructor
  · rintro ⟨bytes, hbytes⟩
    cases hauthority : (writeAuthority s authority t).result with
    | error e =>
      rw [publishAll, result_andThen_of_error _ (result_andThen_of_error _ hauthority)] at hbytes
      rw [Except.error.inj hbytes] at hauthority
      exact absurd hauthority (publish_ne_notText _ _ _ _ _ bytes)
    | ok path =>
      refine ⟨⟨path, rfl⟩, fun htext => ?_⟩
      have hnamespace := result_andThen_of_ok (writeNamespace s given) hauthority
      cases hresult : (writeNamespace s given (writeAuthority s authority t).tree).result with
      | ok path' =>
        rw [publishAll, result_andThen_of_ok _ (hnamespace.trans hresult)] at hbytes
        exact publish_ne_notText _ _ _ _ _ bytes hbytes
      | error e =>
        rw [publishAll, result_andThen_of_error _ (hnamespace.trans hresult)] at hbytes
        rw [Except.error.inj hbytes] at hresult
        exact writeNamespace_ne_notText htext _ bytes hresult
  · rintro ⟨⟨path, hauthority⟩, h⟩
    obtain ⟨bytes, hbytes⟩ := namespaceContent_of_not_isText (s := s) h (writeAuthority s authority t).tree
    have hnamespace : ((writeAuthority s authority t).andThen (writeNamespace s given)).result =
        .error (.notText bytes) := by
      rw [result_andThen_of_ok _ hauthority, writeNamespace, hbytes]
    exact ⟨bytes, result_andThen_of_error _ hnamespace⟩

end Credentials

end Sidecar
