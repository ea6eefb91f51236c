import Sidecar.Yaml.Token.Property

/-!
Reading block scalars, literal and folded.
-/

namespace Sidecar.Yaml

/-- What becomes of the line breaks at the end of a block scalar. -/
inductive Chomping where
  | strip
  | clip
  | keep
  deriving DecidableEq, Repr

private def chompingOf? (ch : Char) : Option Chomping :=
  if ch = '+' then some .keep else if ch = '-' then some .strip else none

private def readIncrement (c : Cursor) : Except Fault (Option Nat × Cursor) :=
  if c.char.isDigit then
    if c.char = '0' then .error (.token c.mark) else .ok (some (c.char.toNat - 48), c.next)
  else .ok (none, c)

/-- The indicators of chomping and indentation, in either order, after the style indicator. -/
def readBlockHeader (c : Cursor) : Except Fault ((Chomping × Option Nat) × Cursor) := do
  let (header, after) ← (
    match chompingOf? c.char with
    | some chomping => do
      let (increment, after) ← readIncrement c.next
      return ((chomping, increment), after)
    | none => do
      let (increment, after) ← readIncrement c
      match increment, chompingOf? after.char with
      | some n, some chomping => return ((chomping, some n), after.next)
      | _, _ => return ((.clip, increment), after) : Except Fault ((Chomping × Option Nat) × Cursor))
  if isSpaceOrEnd after.char then return (header, after) else throw (.token after.mark)

private def skipIndentation (indent : Int) : Nat → Cursor → Cursor
  | 0, c => c
  | fuel + 1, c =>
    if c.mark.column < indent ∧ c.char = ' ' then skipIndentation indent fuel c.next else c

/-- Line breaks, and the indentation up to a column after each. -/
private def readBlockBreaks (indent : Int) : Nat → Cursor → List Char × Cursor
  | 0, c => ([], c)
  | fuel + 1, c =>
    let here := skipIndentation indent c.rest.length c
    if isNewline here.char then
      let (lineBreak, after) := here.lineBreak
      let (more, after) := readBlockBreaks indent fuel after
      (lineBreak ++ more, after)
    else ([], here)

/-- Leading blank lines, and the widest indentation among them. -/
private def readBlockIndentation : Nat → Nat → Cursor → (List Char × Nat) × Cursor
  | 0, widest, c => (([], widest), c)
  | fuel + 1, widest, c =>
    if isNewline c.char then
      let (lineBreak, after) := c.lineBreak
      let ((more, widest), after) := readBlockIndentation fuel widest after
      ((lineBreak ++ more, widest), after)
    else if c.char = ' ' then readBlockIndentation fuel (max widest c.next.mark.column) c.next
    else (([], widest), c)

/-- The lines of a block scalar. `breaks` are the line breaks before the place; the result holds the
text without the breaks at its end, the last line break, and those after it. -/
private def readBlockLines (folded : Bool) (indent : Int) :
    Nat → List Char → Cursor → (List Char × List Char × List Char) × Cursor
  | 0, breaks, c => (([], [], breaks), c)
  | fuel + 1, breaks, c =>
    let startsDark (here : Cursor) : Bool := !(here.char == ' ' || here.char == '\t')
    let (line, after) := c.span (!isNewlineOrEnd ·)
    let (lineBreak, after) := after.lineBreak
    let (later, after) := readBlockBreaks indent (after.rest.length + 1) after
    if after.mark.column = indent ∧ after.char ≠ endOfText then
      let joint :=
        if folded && lineBreak == ['\n'] && startsDark c && startsDark after then
          if later.isEmpty then [' '] else []
        else lineBreak
      let ((text, last, final), after) := readBlockLines folded indent fuel later after
      ((breaks ++ line ++ joint ++ text, last, final), after)
    else ((breaks ++ line, lineBreak, later), after)

/-- A block scalar, from its style indicator on, within the given indentation. -/
def readBlock (parent : Int) (c : Cursor) : Except Fault (String × Cursor) := do
  let folded := c.char == '>'
  let ((chomping, increment), after) ← readBlockHeader c.next
  let after ← readIgnoredLine after
  let least := max 1 (parent + 1)
  let fuel := after.rest.length + 1
  let (indent, breaks, after) := match increment with
    | none =>
      let ((breaks, widest), after) := readBlockIndentation fuel 0 after
      (max least widest, breaks, after)
    | some n =>
      let indent := least + n - 1
      let (breaks, after) := readBlockBreaks indent fuel after
      (indent, breaks, after)
  let ((text, last, final), after) :=
    if after.mark.column = indent ∧ after.char ≠ endOfText then readBlockLines folded indent fuel breaks after
    else (([], [], breaks), after)
  let text := text ++ (if chomping = .strip then [] else last) ++ (if chomping = .keep then final else [])
  return (String.ofList text, after)

end Sidecar.Yaml
