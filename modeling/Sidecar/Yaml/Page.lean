import Sidecar.Value.Literal
import Sidecar.Yaml.Cursor

/-!
A text being written, and the forms of scalars on it. Lines are folded at spaces once they are wider
than 80 columns.
-/

namespace Sidecar.Yaml

/-- What is written so far. `afterBlank` tells that no blank is needed in front of a word,
`inIndent` that only indentation and indicators stand on the line. -/
structure Page where
  text : String := ""
  column : Nat := 0
  afterBlank : Bool := true
  inIndent : Bool := true
  deriving Repr

namespace Page

/-- The width that lines are folded at. -/
def width : Nat := 80

variable (p : Page)

def put (cs : List Char) : Page :=
  { p with text := p.text ++ String.ofList cs, column := p.column + cs.length }

/-- Writes an indicator or a tag, set off by a blank if it needs one. -/
def indicator (s : String) (needsBlank : Bool) (leavesBlank staysInIndent : Bool := false) : Page :=
  let cs := if p.afterBlank || !needsBlank then s.toList else ' ' :: s.toList
  { p.put cs with afterBlank := leavesBlank, inIndent := p.inIndent && staysInIndent }

def lineBreak : Page :=
  { text := p.text ++ "\n", column := 0, afterBlank := true, inIndent := true }

/-- Goes to a column, on a new line unless only indentation stands on this one. -/
def indentTo (column : Nat) : Page :=
  let p := if !p.inIndent || column < p.column || (p.column = column && !p.afterBlank) then p.lineBreak else p
  if p.column < column then
    { p.put (List.replicate (column - p.column) ' ') with afterBlank := true }
  else p

/-- Ends the line of a word that goes on on the next one. -/
private def fold (column : Nat) : Page := { p.indentTo column with afterBlank := false, inIndent := false }

/-- Runs of spaces, and runs of other characters, in order. -/
private def runs (cs : List Char) : List (List Char) :=
  cs.splitBy fun a b => (a == ' ') == (b == ' ')

/-- Writes a plain scalar. Lines are only folded at single spaces, and not in keys. -/
def plain (cs : List Char) (column : Nat) (splits : Bool) : Page :=
  if cs.isEmpty then p
  else
    let p := if p.afterBlank then p else p.put [' ']
    let p := { p with afterBlank := false, inIndent := false }
    (runs cs).foldl (fun p run =>
      if run = [' '] ∧ width < p.column ∧ splits then p.fold column else p.put run) p

/-- Runs of line breaks, of spaces, and of other characters, in order. -/
private def lineRuns (cs : List Char) : List (List Char) :=
  let kind (c : Char) : Nat := if c = ' ' then 0 else if c = '\n' then 1 else 2
  cs.splitBy fun a b => kind a == kind b

/-- The runs of a text in single quotes, each with whether it is the first or the last. A line break is
written as an empty line, and a quote twice. -/
private def singleRuns (column : Nat) (splits : Bool) : Bool → Page → List (List Char) → Page
  | _, p, [] => p
  | first, p, run :: rest =>
    let p :=
      if run.head? = some ' ' then
        if run = [' '] ∧ width < p.column ∧ splits ∧ ¬ first ∧ ¬ rest.isEmpty then p.indentTo column
        else p.put run
      else if run.head? = some '\n' then
        (run.foldl (fun (p : Page) _ => p.lineBreak) p.lineBreak).indentTo column
      else p.put (run.flatMap fun c => if c = '\'' then ['\'', '\''] else [c])
    singleRuns column splits false p rest

def singleQuoted (cs : List Char) (column : Nat) (splits : Bool) : Page :=
  (singleRuns column splits true (p.indicator "'" true) (lineRuns cs)).indicator "'" false

/-- Escapes of one character in double quotes. -/
def writtenEscapes : List (Char × Char) := [
  ('\x00', '0'), ('\x07', 'a'), ('\x08', 'b'), ('\t', 't'), ('\n', 'n'), ('\x0b', 'v'), ('\x0c', 'f'),
  ('\r', 'r'), ('\x1b', 'e'), ('"', '"'), ('\\', '\\'), ('\x85', 'N'), ('\xa0', '_'), ('\u2028', 'L'),
  ('\u2029', 'P')]

private def upperHex (digits n : Nat) : List Char := (Literal.hex digits n).map Char.toUpper

/-- The escape of a character that is not written as itself in double quotes. -/
def escape? (c : Char) : Option (List Char) :=
  match writtenEscapes.lookup c with
  | some e => some ['\\', e]
  | none =>
    let n := c.toNat
    if 0x20 ≤ n ∧ n ≤ 0x7e then none
    else if n ≤ 0xff then some ('\\' :: 'x' :: upperHex 2 n)
    else if n ≤ 0xffff then some ('\\' :: 'u' :: upperHex 4 n)
    else some ('\\' :: 'U' :: upperHex 8 n)

/-- Ends a line within double quotes; a space at the start of the next one is escaped. -/
private def foldDouble (column : Nat) (pending : List Char) (next : Char) : Page :=
  let p := (p.put (pending.reverse ++ ['\\'])).fold column
  if next = ' ' then p.put ['\\'] else p

/-- The characters of a text in double quotes. `pending` are those not yet written, last first. A line
is folded in front of a space or of what follows an escape, or after an escape, but neither at the
first nor at the last character. -/
private def doubleChars (column : Nat) (splits : Bool) : Bool → Page → List Char → List Char → Page
  | _, p, pending, [] => p.put pending.reverse
  | first, p, pending, c :: rest =>
    let inner := splits && !first && !rest.isEmpty
    match escape? c with
    | some e =>
      let p := (p.put pending.reverse).put e
      let p := if inner && width + 1 < p.column then foldDouble p column [] (rest.headD endOfText) else p
      doubleChars column splits false p [] rest
    | none =>
      if inner && (c = ' ' || pending.isEmpty) && width < p.column + pending.length then
        doubleChars column splits false (foldDouble p column pending c) [c] rest
      else doubleChars column splits false p (c :: pending) rest

def doubleQuoted (cs : List Char) (column : Nat) (splits : Bool) : Page :=
  (doubleChars column splits true (p.indicator "\"" true) [] cs).indicator "\"" false

/-- Writes lines in literal style; the last one ends with a line break. -/
def literal (lines : List (List Char)) (column : Nat) : Page :=
  lines.foldl (fun p line => (p.indentTo column).put line |>.lineBreak) ((p.indicator "|" true).lineBreak)

end Page

end Sidecar.Yaml
