import Sidecar.Command.Run

/-!
The command line. It shows the files that the arguments name to the program, and carries out what the
program writes.
-/

open Sidecar

namespace Sidecar.Main

/-- The variables that are set. -/
def environment : IO Environment :=
  Settings.variableNames.filterMapM fun name => return (← IO.getEnv name).map fun s => (name, s)

/-- Adds what lies on the way along the names of a path, as far as it is there. -/
partial def look (t : FileTree) (place : Place) : List String → IO FileTree
  | [] => return t
  | "." :: rest => look t place rest
  | ".." :: rest => look t place.dropLast rest
  | name :: rest => do
    let place := place ++ [name]
    let path := (← IO.currentDir) / ("/" ++ "/".intercalate place)
    if ← path.isDir then look (t.put place .directory) place rest
    else if ← path.pathExists then
      let bytes ← if rest.isEmpty then IO.FS.readBinFile path else pure ByteArray.empty
      return t.put place (.file (.bytes bytes.toList))
    else return t

/-- The tree of the files with the given names. -/
def snapshot (names : List String) : IO FileTree := do
  let here := (FilePath.ofText (← IO.currentDir).toString).parts
  let t ← look { workingDirectory := here } [] here
  names.foldlM (fun t name => do
    let p := FilePath.asGiven name
    look t (if p.anchor = "" then here else []) p.parts) t

/-- Writes the files with the given names that a run has changed. -/
def store (names : List String) (before after : FileTree) : IO Unit := do
  for name in names do
    let p := FilePath.asGiven name
    match before.readFile p, after.readFile p with
    | .ok old, .ok new =>
      if old ≠ new then IO.FS.writeBinFile name (ByteArray.mk (Command.contentBytes new).toArray)
    | .error _, .ok new => IO.FS.writeBinFile name (ByteArray.mk (Command.contentBytes new).toArray)
    | _, _ => pure ()

/-- All bytes of the standard input. -/
partial def readAll (input : IO.FS.Stream) (acc : ByteArray) : IO ByteArray := do
  let chunk ← input.read 65536
  if chunk.isEmpty then return acc else readAll input (acc ++ chunk)

/-- Connections lie outside of this library, so that a server ends where it would listen. -/
def serve (_ : Command.ServerKind) (_ : Settings) : Option Command.ServerFailure :=
  some (.reported "no network transport is available")

def programName : String := "mca"

def run (args : List String) : IO UInt32 := do
  let arguments := Command.injection? programName args
  let named (o : Command.OptionSpec) : List String :=
    ((arguments.bind (·.value? o.long)).filter (· ≠ Command.streamName)).toList
  let names := named Command.fileOption ++ named Command.outputOption
  let readsInput := arguments.isSome && (named Command.fileOption).isEmpty
  let files ← snapshot names
  let input ← if readsInput then readAll (← IO.getStdin) ByteArray.empty else pure ByteArray.empty
  let o := Command.run programName args ⟨← environment, input.toList, files⟩ serve
  store names files o.files
  (← IO.getStdout).write (ByteArray.mk o.output.toArray)
  (← IO.getStderr).putStr (match o.failure with
    | some failure => failure.report.getD "Error: the run has ended early\n"
    | none => "")
  return o.exitCode.toUInt32

end Sidecar.Main

def main (args : List String) : IO UInt32 := Sidecar.Main.run args
