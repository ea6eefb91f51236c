import Sidecar.Command.Invocation
import Sidecar.Config.Settings
import Sidecar.Manifest

/-!
Running a command on the files, the environment and the input it is given. Output is written last, so
that a run that fails leaves all files as they were.
-/

namespace Sidecar.Command

/-- How a server ends when it does not end well. -/
inductive ServerFailure where
  | reported (text : String)
  /-- Any other error, with its kind. -/
  | internal (kind reason : String)
  deriving DecidableEq, Repr

/-- Why a run does not succeed. -/
inductive Failure where
  | misused (c : CommandSpec) (error : UsageError)
  /-- Nothing was asked for, so that the help page is shown. -/
  | nothingAsked (c : CommandSpec)
  | configuration (report : Schema.Report)
  | injection (error : ManifestError)
  | output (error : FileError)
  | server (failure : ServerFailure)
  deriving DecidableEq, Repr

/-- Errors that are not foreseen end the run without a report. -/
def isForeseen : ManifestError → Bool
  | .unreadable (.scalar _) | .notInjected .portTooLong | .integerTooLong | .tooDeep => false
  | .unreadable fault => !fault.isUnrepresented
  | _ => true

namespace Failure

def exitCode : Failure → Nat
  | .misused .. | .nothingAsked _ => 2
  | _ => 1

/-- What is written to the error output; nothing if the error was not foreseen. -/
def report : Failure → Option String
  | .misused c error => some (error.report c)
  | .nothingAsked c => some c.page
  | .configuration report => some ("Error: Invalid configuration: " ++ report.text ++ "\n")
  | .injection error =>
    if isForeseen error then some ("Error: Injection failed: " ++ error.message ++ "\n") else none
  | .output _ => none
  | .server (.reported text) => some ("Error: Server failed: " ++ text ++ "\n")
  | .server (.internal ..) => none

end Failure

/-- What a command finds. -/
structure World where
  environment : Environment := []
  input : List UInt8 := []
  files : FileTree := {}

/-- What a run leaves behind. -/
structure Outcome where
  failure : Option Failure := none
  output : List UInt8 := []
  files : FileTree
  /-- The log level, if the run has come as far as setting it. -/
  level : Option LogThreshold := none
  /-- The server that was run, if any, with its settings. -/
  served : Option (ServerKind × Settings) := none

namespace Outcome

def exitCode (o : Outcome) : Nat := (o.failure.map (·.exitCode)).getD 0

def errorOutput (o : Outcome) : String := (o.failure.bind (·.report)).getD ""

end Outcome

/-- The name of the standard streams. -/
def streamName : String := "-"

/-- The bytes of a file; those of a certificate are not modelled. -/
def contentBytes : Content → List UInt8
  | .bytes b => b
  | .certificate _ => []

/-- The input that the arguments ask for. An empty name is that of no file. -/
def readInput (w : World) (a : Arguments) : Except UsageError (List UInt8) :=
  let name := (a.value? fileOption.long).getD streamName
  if name = streamName then .ok w.input
  else if name = "" then .error (.unreadableInput name .missing)
  else
    match w.files.readFile (.asGiven name) with
    | .ok content => .ok (contentBytes content)
    | .error obstacle => .error (.unreadableInput name obstacle)

/-- The file that the output goes to, if it does not go to the standard output. -/
def outputName (w : World) (a : Arguments) : Except UsageError (Option String) :=
  match a.value? outputOption.long with
  | none => .ok none
  | some name =>
    if name ≠ "" ∧ w.files.isDirectory (.asGiven name) then .error (.outputIsDirectory name)
    else .ok (if name = "" ∨ name = streamName then none else some name)

/-- The input and the file for the output, checked in the order in which they are named. -/
def streams (w : World) (a : Arguments) : Except UsageError (List UInt8 × Option String) := do
  if a.precedes outputOption.long fileOption.long then
    let name ← outputName w a
    return (← readInput w a, name)
  else
    let input ← readInput w a
    return (input, ← outputName w a)

/-- Writes the output to its file, or to the standard output. -/
def writeOutput (w : World) (name : Option String) (bytes : List UInt8) : Outcome :=
  match name with
  | none => { output := bytes, files := w.files }
  | some name =>
    match w.files.writeFile (.asGiven name) (.bytes bytes) with
    | .ok files => { files }
    | .error obstacle => { failure := some (.output (.obstructed obstacle name)), files := w.files }

/-- Injects the sidecar into the pod of the input. -/
def runInject (w : World) (input : List UInt8) (name : Option String) : Outcome :=
  match InjectionConfig.ofEnvironment w.environment with
  | .error report => { failure := some (.configuration report), files := w.files }
  | .ok c =>
    match Manifest.inject c (.bytes input) with
    | .error e => { failure := some (.injection e), files := w.files }
    | .ok text => writeOutput w name (Utf8.encode text)

/-- Runs a server until it ends, which it reports if it does not end well. -/
def runServer (w : World) (kind : ServerKind) (serve : ServerKind → Settings → Option ServerFailure) :
    Outcome :=
  match Settings.ofEnvironment w.environment with
  | .error report => { failure := some (.configuration report), files := w.files }
  | .ok s => { failure := (serve kind s).map .server, files := w.files, served := some (kind, s) }

/-- Runs a command with its own arguments. -/
def runVerb (w : World) (programName : String) (verb : Verb) (args : List String)
    (serve : ServerKind → Settings → Option ServerFailure) : Outcome :=
  let c := verb.spec programName
  let misused (e : UsageError) : Outcome := { failure := some (.misused c e), files := w.files }
  match readArguments c.options false args with
  | .error e => misused (.option e)
  | .ok a =>
    if a.has helpOption.long then { output := Utf8.encode c.page, files := w.files }
    else
      match verb with
      | .inject =>
        match streams w a with
        | .error e => misused e
        | .ok (input, name) =>
          if a.words.isEmpty then runInject w input name else misused (.tooManyWords a.words)
      | .serve kind =>
        if a.words.isEmpty then runServer w kind serve else misused (.tooManyWords a.words)

/-- The arguments of an injection, if one is called for. -/
def injection? (programName : String) (args : List String) : Option Arguments :=
  match invocation programName args with
  | .run _ .inject args => (readArguments (Verb.inject.spec programName).options false args).toOption
  | _ => none

/-- Runs the program on its arguments. -/
def run (programName : String) (args : List String) (w : World)
    (serve : ServerKind → Settings → Option ServerFailure) : Outcome :=
  match invocation programName args with
  | .page c true => { output := Utf8.encode c.page, files := w.files }
  | .page c false => { failure := some (.nothingAsked c), files := w.files }
  | .misused c e => { failure := some (.misused c e), files := w.files }
  | .run level verb args => { runVerb w programName verb args serve with level := some level }

end Sidecar.Command
