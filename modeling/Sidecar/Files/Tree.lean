import Sidecar.Certificate.Basic
import Sidecar.Files.Path
import Sidecar.Text.Utf8
import Sidecar.Value.Literal

/-!
A tree of directories and files, without links. A place is given by the names that lead to it from the
top of the tree; the top itself is a directory.
-/

namespace Sidecar

/-- What stands in the way of an operation on files. -/
inductive Obstacle where
  | missing
  | exists
  | notDirectory
  | isDirectory
  deriving DecidableEq, Repr

namespace Obstacle

def code : Obstacle → Nat
  | .missing => 2
  | .exists => 17
  | .notDirectory => 20
  | .isDirectory => 21

def reason : Obstacle → String
  | .missing => "No such file or directory"
  | .exists => "File exists"
  | .notDirectory => "Not a directory"
  | .isDirectory => "Is a directory"

/-- The message without a path. -/
def message (o : Obstacle) : String := "[Errno " ++ toString o.code ++ "] " ++ o.reason

end Obstacle

inductive FileError where
  | obstructed (obstacle : Obstacle) (path : String)
  | nulInPath
  deriving DecidableEq, Repr

def FileError.message : FileError → String
  | .obstructed obstacle path => obstacle.message ++ ": " ++ Literal.quoted path
  | .nulInPath => "embedded null byte"

abbrev Place := List String

inductive FileEntry where
  | directory
  | file (content : Content)
  deriving DecidableEq, Repr

/-- Relative paths start at the working directory. -/
structure FileTree where
  entries : List (Place × FileEntry) := []
  workingDirectory : Place := []
  deriving DecidableEq, Repr

namespace FileTree

def entry? (t : FileTree) (place : Place) : Option FileEntry :=
  if place = [] then some .directory else t.entries.lookup place

/-- Puts an entry at a place. -/
def put (t : FileTree) (place : Place) (entry : FileEntry) : FileTree :=
  if (t.entries.lookup place).isSome then
    { t with entries := t.entries.map fun (p, e) => (p, if p = place then entry else e) }
  else { t with entries := t.entries ++ [(place, entry)] }

/-- Follows names from a place. The last one need not exist, and all before it must be directories. -/
def follow (t : FileTree) : Place → List String → Except Obstacle Place
  | place, [] => .ok place
  | place, name :: rest =>
    match t.entry? place with
    | none => .error .missing
    | some (.file _) => .error .notDirectory
    | some .directory =>
      if name = "." then t.follow place rest
      else if name = ".." then t.follow place.dropLast rest
      else t.follow (place ++ [name]) rest

/-- The place that a path leads to, whatever is there. -/
def locate (t : FileTree) (p : FilePath) : Except Obstacle Place :=
  t.follow (if p.anchor = "" then t.workingDirectory else []) p.parts

def find (t : FileTree) (p : FilePath) : Except Obstacle FileEntry := do
  match t.entry? (← t.locate p) with
  | none => throw .missing
  | some .directory => return .directory
  | some (.file content) => if p.ofDirectory then throw .notDirectory else return .file content

def isDirectory (t : FileTree) (p : FilePath) : Bool :=
  match t.find p with
  | .ok .directory => true
  | _ => false

def isFile (t : FileTree) (p : FilePath) : Bool :=
  match t.find p with
  | .ok (.file _) => true
  | _ => false

def readFile (t : FileTree) (p : FilePath) : Except Obstacle Content := do
  match ← t.find p with
  | .file content => return content
  | .directory => throw .isDirectory

/-- Writes a file in an existing directory, in place of the one that is there. -/
def writeFile (t : FileTree) (p : FilePath) (content : Content) : Except Obstacle FileTree := do
  let place ← t.locate p
  if p.ofDirectory ∨ t.entry? place = some .directory then throw .isDirectory
  return t.put place (.file content)

def makeDirectory (t : FileTree) (p : FilePath) : Except Obstacle FileTree := do
  let place ← t.locate p
  match t.entry? place with
  | some _ => throw .exists
  | none => return t.put place .directory

/-- Makes a directory unless it is there. -/
def ensureDirectory (t : FileTree) (p : FilePath) : Except Obstacle FileTree :=
  match t.makeDirectory p with
  | .ok t => .ok t
  | .error obstacle => if t.isDirectory p then .ok t else .error obstacle

/-- Makes a directory, given by its names from the last to the first, with those above it that are
missing. What has been made stays, also where a later one cannot be made. -/
def ensureAll (anchor : String) : List String → FileTree → FileTree × Option FileError
  | names, t =>
    let p : FilePath := { anchor, parts := names.reverse }
    match t.ensureDirectory p, names with
    | .ok t, _ => (t, none)
    | .error .missing, _ :: above =>
      match ensureAll anchor above t with
      | (t, some e) => (t, some e)
      | (t, none) =>
        match t.ensureDirectory p with
        | .ok t => (t, none)
        | .error obstacle => (t, some (.obstructed obstacle p.text))
    | .error obstacle, _ => (t, some (.obstructed obstacle p.text))

/-- Writes a file and makes the directories that it needs. -/
def publish (t : FileTree) (p : FilePath) (content : Content) : FileTree × Option FileError :=
  if p.hasNul then (t, some .nulInPath)
  else
    match ensureAll p.anchor p.parent.parts.reverse t with
    | (t, some e) => (t, some e)
    | (t, none) =>
      match t.writeFile p content with
      | .ok t => (t, none)
      | .error obstacle => (t, some (.obstructed obstacle p.text))

/-- What a file holds. -/
def read (t : FileTree) (p : FilePath) : Except FileError Content :=
  if p.hasNul then .error .nulInPath
  else
    match t.readFile p with
    | .ok content => .ok content
    | .error obstacle => .error (.obstructed obstacle p.text)

end FileTree

end Sidecar
