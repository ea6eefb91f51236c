import Sidecar.Command.Run
import Sidecar.Proofs.Files.Tree

/-!
A run that is to inject either fails and leaves everything as it was, or delivers the whole injected
manifest. The input is read before the output is opened, so that both may be the same file.
-/

namespace Sidecar

theorem Manifest.inject_nil (c : InjectionConfig) :
    inject c (.bytes []) = .error (.documentCount 0) := rfl

namespace Command

variable {programName : String} {args : List String} {w : World} {a : Arguments} {o : Outcome}
  {input bytes : List UInt8} {text : String} {name : Option String}

/-- The name of the input that is asked for. -/
def inputName (a : Arguments) : String := (a.value? fileOption.long).getD streamName

/-- The bytes of the input that is asked for, as they are when the run begins. -/
inductive Reads (w : World) (a : Arguments) : List UInt8 → Prop where
  | stream (hname : inputName a = streamName) : Reads w a w.input
  | file {bytes : List UInt8} (hname : inputName a ≠ streamName) (hempty : inputName a ≠ "")
    (hread : w.files.readFile (.asGiven (inputName a)) = .ok (.bytes bytes)) : Reads w a bytes

/-- The text of the manifest in the input after an injection as the environment asks for. -/
def Injects (w : World) (a : Arguments) (text : String) : Prop :=
  ∃ bytes c, Reads w a bytes ∧ InjectionConfig.ofEnvironment w.environment = .ok c ∧
    Manifest.inject c (.bytes bytes) = .ok text

/-- The file that the output is asked to go to, if not to the standard output. -/
def target? (a : Arguments) : Option String :=
  (a.value? outputOption.long).filter fun name => name ≠ "" && name ≠ streamName

/-- The output is not asked to go to a directory. -/
def NotDirectory (w : World) (a : Arguments) : Prop :=
  ∀ name, a.value? outputOption.long = some name → name ≠ "" → w.files.isDirectory (.asGiven name) = false

/-- The output can go where it is asked to. -/
structure Admits (w : World) (a : Arguments) : Prop where
  notDirectory : NotDirectory w a
  located : ∀ name, target? a = some name → (FilePath.asGiven name).ofDirectory = false ∧
    ∃ place, w.files.locate (.asGiven name) = .ok place

/-- These bytes are at the place that the output was asked to go to, and nothing is anywhere else. -/
inductive Delivered (w : World) (a : Arguments) (bytes : List UInt8) (o : Outcome) : Prop where
  | printed (htarget : target? a = none) (houtput : o.output = bytes) (hfiles : o.files = w.files)
  | written {name : String} (htarget : target? a = some name) (houtput : o.output = [])
    (hfiles : w.files.Wrote (.asGiven name) (.bytes bytes) o.files)

/-- All that can come of a run that is to inject. -/
inductive InjectOutcome (w : World) (a : Arguments) (o : Outcome) : Prop where
  | failed (hcode : o.exitCode ≠ 0) (houtput : o.output = []) (hfiles : o.files = w.files)
  | delivered {text : String} (hcode : o.exitCode = 0) (hwords : a.words = []) (hadmits : Admits w a)
    (hinjects : Injects w a text) (hdelivered : Delivered w a (Utf8.encode text) o)

theorem Failure.exitCode_ne_zero (failure : Failure) : failure.exitCode ≠ 0 := by
  cases failure <;> simp [exitCode]

theorem InjectOutcome.of_failure {failure : Failure} (hfailure : o.failure = some failure)
    (houtput : o.output = []) (hfiles : o.files = w.files) : InjectOutcome w a o := by
  refine .failed ?_ houtput hfiles
  rw [Outcome.exitCode, hfailure]
  exact failure.exitCode_ne_zero

theorem readInput_eq (w : World) (a : Arguments) : readInput w a =
    if inputName a = streamName then .ok w.input
    else if inputName a = "" then .error (.unreadableInput (inputName a) .missing)
    else match w.files.readFile (.asGiven (inputName a)) with
      | .ok content => .ok (contentBytes content)
      | .error obstacle => .error (.unreadableInput (inputName a) obstacle) := rfl

theorem readInput_of_reads (h : Reads w a bytes) : readInput w a = .ok bytes := by
  rw [readInput_eq]
  cases h with
  | stream hname => rw [if_pos hname]
  | file hname hempty hread =>
    rw [if_neg hname, if_neg hempty, hread]
    rfl

/-- What is read is the input that was asked for. The bytes of a certificate are not known. -/
theorem reads_of_readInput (h : readInput w a = .ok input) : Reads w a input ∨ input = [] := by
  rw [readInput_eq] at h
  by_cases hname : inputName a = streamName
  · rw [if_pos hname, Except.ok.injEq] at h
    exact .inl (h ▸ .stream hname)
  · by_cases hempty : inputName a = ""
    · rw [if_neg hname, if_pos hempty] at h
      nomatch h
    · rw [if_neg hname, if_neg hempty] at h
      cases hread : w.files.readFile (.asGiven (inputName a)) with
      | error obstacle =>
        rw [hread] at h
        nomatch h
      | ok content =>
        rw [hread, Except.ok.injEq] at h
        cases content with
        | bytes bytes => exact .inl (h ▸ .file hname hempty hread)
        | certificate c => exact .inr h.symm

theorem streams_eq_ok_iff : streams w a = .ok (input, name) ↔
    readInput w a = .ok input ∧ outputName w a = .ok name := by
  unfold streams
  cases hread : readInput w a <;> cases hname : outputName w a <;>
    by_cases hfirst : a.precedes outputOption.long fileOption.long = true <;>
    simp [hfirst, bind, Except.bind, pure, Except.pure]

theorem outputName_eq_ok_iff : outputName w a = .ok name ↔ NotDirectory w a ∧ name = target? a := by
  unfold outputName NotDirectory target?
  cases a.value? outputOption.long with
  | none => simp [eq_comm (a := name)]
  | some value =>
    -- a directory with the name of the standard output is refused as well
    by_cases hempty : value = ""
    · simp [hempty, Option.filter_some, eq_comm (a := name)]
    · cases hdirectory : w.files.isDirectory (.asGiven value) with
      | true => simp [hempty, hdirectory]
      | false =>
        by_cases hstream : value = streamName
        · subst hstream
          simp [hempty, hdirectory, Option.filter_some, eq_comm (a := name)]
        · simp [hempty, hdirectory, hstream, Option.filter_some, eq_comm (a := name)]

/-- Writing is the last step, and can still fail. -/
theorem injectOutcome_writeOutput (hdirectory : NotDirectory w a) (hwords : a.words = [])
    (hinjects : Injects w a text) :
    InjectOutcome w a (writeOutput w (target? a) (Utf8.encode text)) := by
  cases htarget : target? a with
  | none =>
    have hadmits : Admits w a := ⟨hdirectory, by simp [htarget]⟩
    exact .delivered rfl hwords hadmits hinjects (.printed htarget rfl rfl)
  | some name =>
    cases hwrite : w.files.writeFile (.asGiven name) (.bytes (Utf8.encode text)) with
    | error obstacle =>
      simp only [writeOutput, hwrite]
      exact .of_failure rfl rfl rfl
    | ok files =>
      obtain ⟨place, hlocate, hof, -, -⟩ := FileTree.writeFile_eq_ok_iff.mp hwrite
      have hadmits : Admits w a := by
        refine ⟨hdirectory, fun other hother => ?_⟩
        obtain rfl : name = other := Option.some.inj (htarget.symm.trans hother)
        exact ⟨hof, place, hlocate⟩
      simp only [writeOutput, hwrite]
      have hwrote := FileTree.wrote_of_writeFile hwrite
      exact .delivered rfl hwords hadmits hinjects (.written htarget rfl hwrote)

theorem injectOutcome_runInject (hdirectory : NotDirectory w a) (hwords : a.words = [])
    (hread : readInput w a = .ok input) :
    InjectOutcome w a (runInject w input (target? a)) := by
  unfold runInject
  cases hconfig : InjectionConfig.ofEnvironment w.environment with
  | error report => exact .of_failure rfl rfl rfl
  | ok c =>
    simp only
    cases hinject : Manifest.inject c (.bytes input) with
    | error e => exact .of_failure rfl rfl rfl
    | ok text =>
      have hreads : Reads w a input := by
        refine (reads_of_readInput hread).resolve_right fun hnil => ?_
        rw [hnil, Manifest.inject_nil] at hinject
        nomatch hinject
      exact injectOutcome_writeOutput hdirectory hwords ⟨input, c, hreads, hconfig, hinject⟩

/-- What is done once the arguments have been read. -/
def runArguments (programName : String) (w : World) (a : Arguments) : Outcome :=
  let misused (e : UsageError) : Outcome :=
    { failure := some (.misused (Verb.inject.spec programName) e), files := w.files }
  match streams w a with
  | .error e => misused e
  | .ok (input, name) => if a.words.isEmpty then runInject w input name else misused (.tooManyWords a.words)

theorem run_eq_runArguments (w : World) (serve : ServerKind → Settings → Option ServerFailure)
    (h : injection? programName args = some a) (hhelp : a.has helpOption.long = false) :
    ∃ level, run programName args w serve = { runArguments programName w a with level := some level } := by
  unfold injection? at h
  split at h
  · next level given hinvocation =>
    have hread : readArguments (Verb.inject.spec programName).options false given = .ok a := by
      cases hread : readArguments (Verb.inject.spec programName).options false given with
      | error e => simp [hread, Except.toOption] at h
      | ok a' => simpa [hread, Except.toOption] using h
    have hnot : ¬(a.has helpOption.long = true) := by simp [hhelp]
    have hverb : runVerb w programName .inject given serve = runArguments programName w a := by
      unfold runVerb
      dsimp only
      rw [hread]
      exact if_neg hnot
    refine ⟨level, ?_⟩
    rw [run, hinvocation]
    exact congrArg (fun o : Outcome => { o with level := some level }) hverb
  · nomatch h

/-- The log level is no part of what a run is to do. -/
theorem InjectOutcome.withLevel {level : Option LogThreshold} (h : InjectOutcome w a o) :
    InjectOutcome w a { o with level } := by
  cases h with
  | failed hcode houtput hfiles => exact .failed hcode houtput hfiles
  | delivered hcode hwords hadmits hinjects hdelivered =>
    refine .delivered hcode hwords hadmits hinjects ?_
    cases hdelivered with
    | printed htarget houtput hfiles => exact .printed htarget houtput hfiles
    | written htarget houtput hfiles => exact .written htarget houtput hfiles

theorem injectOutcome_runArguments (programName : String) (w : World) (a : Arguments) :
    InjectOutcome w a (runArguments programName w a) := by
  unfold runArguments
  cases hstreams : streams w a with
  | error e => exact .of_failure rfl rfl rfl
  | ok found =>
    obtain ⟨input, name⟩ := found
    obtain ⟨hread, hname⟩ := streams_eq_ok_iff.mp hstreams
    obtain ⟨hdirectory, rfl⟩ := outputName_eq_ok_iff.mp hname
    by_cases hwords : a.words = []
    · simp only [hwords, List.isEmpty_nil, if_true]
      exact injectOutcome_runInject hdirectory hwords hread
    · have hmore : ¬(a.words.isEmpty = true) := mt List.isEmpty_iff.mp hwords
      simp only [if_neg hmore]
      exact .of_failure rfl rfl rfl

theorem writeOutput_of_admits (hadmits : Admits w a) (bytes : List UInt8) :
    (writeOutput w (target? a) bytes).failure = none := by
  cases htarget : target? a with
  | none => rfl
  | some name =>
    obtain ⟨hof, place, hlocate⟩ := hadmits.located name htarget
    obtain ⟨hvalue, hname⟩ := Option.filter_eq_some_iff.mp htarget
    have hempty : name ≠ "" := by
      intro heq
      simp [heq] at hname
    have hentry : w.files.entry? place ≠ some .directory := by
      intro hentry
      have hdirectory := FileTree.isDirectory_eq_true_iff.mpr ⟨place, hlocate, hentry⟩
      rw [hadmits.notDirectory name hvalue hempty] at hdirectory
      nomatch hdirectory
    have hwrite : w.files.writeFile (.asGiven name) (.bytes bytes) =
        .ok (w.files.put place (.file (.bytes bytes))) :=
      FileTree.writeFile_eq_ok_iff.mpr ⟨place, hlocate, hof, hentry, rfl⟩
    simp only [writeOutput, hwrite]

theorem runInject_eq {c : InjectionConfig}
    (hconfig : InjectionConfig.ofEnvironment w.environment = .ok c)
    (hinject : Manifest.inject c (.bytes input) = .ok text) :
    runInject w input name = writeOutput w name (Utf8.encode text) := by
  unfold runInject
  simp only [hconfig, hinject]

theorem failure_runArguments_of_injects (programName : String) (hwords : a.words = []) (hadmits : Admits w a)
    (hinjects : Injects w a text) : (runArguments programName w a).failure = none := by
  obtain ⟨bytes, c, hreads, hconfig, hinject⟩ := hinjects
  have hname : outputName w a = .ok (target? a) :=
    outputName_eq_ok_iff.mpr ⟨hadmits.notDirectory, rfl⟩
  have hstreams : streams w a = .ok (bytes, target? a) :=
    streams_eq_ok_iff.mpr ⟨readInput_of_reads hreads, hname⟩
  unfold runArguments
  rw [hstreams]
  simp only [hwords, List.isEmpty_nil, if_true, runInject_eq hconfig hinject]
  exact writeOutput_of_admits hadmits (Utf8.encode text)

/-- A run that is to inject writes all or nothing. If it fails, at whatever stage, then nothing is printed
and the files are as before. If it succeeds, then the destination holds the injected manifest of the input
as it was at the start, and nothing else has changed. It fails only if one of the stages does. -/
theorem run_all_or_nothing (w : World) (serve : ServerKind → Settings → Option ServerFailure)
    (h : injection? programName args = some a) (hhelp : a.has helpOption.long = false) :
    ((run programName args w serve).exitCode ≠ 0 →
      (run programName args w serve).output = [] ∧ (run programName args w serve).files = w.files) ∧
    ((run programName args w serve).exitCode = 0 →
      ∃ text, Injects w a text ∧ Delivered w a (Utf8.encode text) (run programName args w serve)) ∧
    ((run programName args w serve).exitCode = 0 ↔
      a.words = [] ∧ Admits w a ∧ ∃ text, Injects w a text) := by
  obtain ⟨level, hrun⟩ := run_eq_runArguments w serve h hhelp
  have houtcome : InjectOutcome w a (run programName args w serve) := by
    rw [hrun]
    exact (injectOutcome_runArguments programName w a).withLevel
  have hback : (a.words = [] ∧ Admits w a ∧ ∃ text, Injects w a text) →
      (run programName args w serve).exitCode = 0 := by
    rintro ⟨hwords, hadmits, text, hinjects⟩
    have hnone := failure_runArguments_of_injects programName hwords hadmits hinjects
    rw [hrun, Outcome.exitCode, hnone]
    rfl
  cases houtcome with
  | failed hcode houtput hfiles =>
    exact ⟨fun _ => ⟨houtput, hfiles⟩, fun hzero => absurd hzero hcode,
      fun hzero => absurd hzero hcode, hback⟩
  | delivered hcode hwords hadmits hinjects hdelivered =>
    exact ⟨fun hne => absurd hcode hne, fun _ => ⟨_, hinjects, hdelivered⟩,
      fun _ => ⟨hwords, hadmits, _, hinjects⟩, hback⟩

/-- One file as the input and as the destination. -/
def sampleArguments : List String := ["inject", "-f", "pod.yaml", "-o", "pod.yaml"]

def sampleOptions : Arguments := { options := [⟨"file", "pod.yaml"⟩, ⟨"output", "pod.yaml"⟩] }

def sampleWorld : World where
  environment := [("MCA_PROXY_IMAGE", "mca")]
  files := { entries := [(["pod.yaml"], .file (.bytes (Utf8.encode "kind: Pod")))] }

theorem injects_sample : ∃ text, Injects sampleWorld sampleOptions text := by
  have hreads : Reads sampleWorld sampleOptions (Utf8.encode "kind: Pod") :=
    .file (by decide) (by decide) rfl
  have hconfig : InjectionConfig.ofEnvironment sampleWorld.environment = .ok { proxyImage := "mca" } := rfl
  have hok : (Manifest.inject { proxyImage := "mca" } (.bytes (Utf8.encode "kind: Pod"))).toOption.isSome =
      true := by
    decide +kernel
  cases hinject : Manifest.inject { proxyImage := "mca" } (.bytes (Utf8.encode "kind: Pod")) with
  | error e =>
    rw [hinject] at hok
    nomatch hok
  | ok text => exact ⟨text, _, _, hreads, hconfig, hinject⟩

theorem run_all_or_nothing_sample :
    (injection? "mca" sampleArguments = some sampleOptions ∧
      sampleOptions.has helpOption.long = false) ∧
    ∃ text, Injects sampleWorld sampleOptions text ∧
      (run "mca" sampleArguments sampleWorld fun _ _ => none).files.readFile (.asGiven "pod.yaml") =
        .ok (.bytes (Utf8.encode text)) := by
  have harguments : injection? "mca" sampleArguments = some sampleOptions := by decide +kernel
  have hhelp : sampleOptions.has helpOption.long = false := by decide
  have htarget : target? sampleOptions = some "pod.yaml" := by decide
  have hadmits : Admits sampleWorld sampleOptions := by
    refine ⟨fun name hname _ => ?_, fun name hname => ?_⟩
    · obtain rfl : "pod.yaml" = name := Option.some.inj hname
      decide +kernel
    · obtain rfl : "pod.yaml" = name := Option.some.inj (htarget.symm.trans hname)
      exact ⟨by decide, ["pod.yaml"], rfl⟩
  obtain ⟨-, hdelivered, hzero⟩ := run_all_or_nothing sampleWorld (fun _ _ => none) harguments hhelp
  obtain ⟨text, hinjects, hdelivered⟩ := hdelivered (hzero.mpr ⟨rfl, hadmits, injects_sample⟩)
  refine ⟨⟨harguments, hhelp⟩, text, hinjects, ?_⟩
  cases hdelivered with
  | printed hnone =>
    rw [htarget] at hnone
    nomatch hnone
  | written hname _ hwrote =>
    obtain rfl := Option.some.inj (hname.symm.trans htarget)
    exact hwrote.holds

end Command

end Sidecar
