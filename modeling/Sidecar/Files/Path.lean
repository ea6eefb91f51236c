/-!
Paths of files.
-/

namespace Sidecar

/-- An anchor of slashes, or none for a relative path, and the names that follow it. -/
structure FilePath where
  anchor : String := ""
  parts : List String
  /-- Whether the path must lead to a directory. -/
  ofDirectory : Bool := false
  deriving DecidableEq, Repr

namespace FilePath

/-- What stands between slashes. -/
def splitSlashes : List Char → List (List Char)
  | [] => [[]]
  | '/' :: rest => [] :: splitSlashes rest
  | c :: rest =>
    match splitSlashes rest with
    | part :: parts => (c :: part) :: parts
    | [] => [[c]]

/-- What stands between the slashes of a text. -/
def names (s : String) : List String := (splitSlashes s.toList).map String.ofList

/-- Exactly two slashes at the start are kept apart from one and from more. -/
def anchorOf (s : String) : String :=
  match (s.toList.takeWhile (· == '/')).length with
  | 0 => ""
  | 2 => "//"
  | _ => "/"

/-- The names of a text without those that lead nowhere. -/
def plainNames (s : String) : List String := (names s).filter fun name => name ≠ "" && name ≠ "."

/-- A path in plain form. A name that leads upwards is kept. -/
def ofText (s : String) : FilePath := { anchor := anchorOf s, parts := plainNames s }

/-- A path as it is given: a slash at the end asks for a directory. -/
def asGiven (s : String) : FilePath :=
  ⟨anchorOf s, (names s).filter (· ≠ ""), s.toList.getLast? = some '/'⟩

/-- The path below another one, whether or not its text starts with slashes. -/
def under (base : FilePath) (s : String) : FilePath :=
  { base with parts := base.parts ++ plainNames s }

def parent (p : FilePath) : FilePath := { p with parts := p.parts.dropLast }

def text (p : FilePath) : String :=
  let s := p.anchor ++ "/".intercalate p.parts
  if s = "" then "." else s

/-- No name of a path may hold the character that ends texts in system calls. -/
def hasNul (p : FilePath) : Bool := p.parts.any fun name => name.toList.contains '\x00'

end FilePath

end Sidecar
