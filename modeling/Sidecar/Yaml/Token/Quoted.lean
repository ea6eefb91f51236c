import Sidecar.Yaml.Token.Property

/-!
Reading scalars in quotes. A line break within them is folded: it stands for a space, and each
further one for itself.
-/

namespace Sidecar.Yaml

/-- Line breaks and the blanks around them; a document separator must not stand there. -/
def readFoldedBreaks : Nat → Cursor → Except Fault (List Char × Cursor)
  | 0, c => .ok ([], c)
  | fuel + 1, c =>
    if c.atSeparator then .error (.token c.mark)
    else
      let after := c.dropWhile fun ch => ch == ' ' || ch == '\t'
      if isNewline after.char then do
        let (lineBreak, after) := after.lineBreak
        let (more, after) ← readFoldedBreaks fuel after
        return (lineBreak ++ more, after)
      else .ok ([], after)

/-- Blanks within quotes, folded if a line ends there. -/
def readQuotedBlanks (c : Cursor) : Except Fault (List Char × Cursor) :=
  let (blanks, after) := c.span fun ch => ch == ' ' || ch == '\t'
  if after.char = endOfText then .error (.token after.mark)
  else if isNewline after.char then do
    let (lineBreak, after) := after.lineBreak
    let (breaks, after) ← readFoldedBreaks (after.rest.length + 1) after
    let first := if lineBreak ≠ ['\n'] then lineBreak else if breaks.isEmpty then [' '] else []
    return (first ++ breaks, after)
  else .ok (blanks, after)

/-- Escapes of one character. -/
def simpleEscapes : List (Char × Char) := [
  ('0', '\x00'), ('a', '\x07'), ('b', '\x08'), ('t', '\t'), ('\t', '\t'), ('n', '\n'), ('v', '\x0b'),
  ('f', '\x0c'), ('r', '\r'), ('e', '\x1b'), (' ', ' '), ('"', '"'), ('\\', '\\'), ('/', '/'),
  ('N', '\x85'), ('_', '\xa0'), ('L', '\u2028'), ('P', '\u2029')]

/-- Escapes of a character by its code, with the number of their digits. -/
def codeEscapes : List (Char × Nat) := [('x', 2), ('u', 4), ('U', 8)]

/-- The character of a code point that is written at the mark. -/
def charOfCode (mark : Mark) (code : Nat) : Except Fault Char :=
  if 0x80000000 ≤ code then .error (.scalar .codePointOverflow)
  else if 0x110000 ≤ code then .error (.scalar .codePoint)
  else if code.isValidChar then .ok (Char.ofNat code)
  else .error (.surrogate mark)

/-- An escape, after its backslash. -/
def readEscape (c : Cursor) : Except Fault (List Char × Cursor) :=
  match simpleEscapes.lookup c.char, codeEscapes.lookup c.char with
  | some ch, _ => .ok ([ch], c.next)
  | none, some digits =>
    match hexNumber? digits c.next with
    | none => .error (.token c.next.mark)
    | some code => do return ([← charOfCode c.mark code], c.next.skip digits)
  | none, none =>
    if isNewline c.char then
      let (_, after) := c.lineBreak
      readFoldedBreaks (after.rest.length + 1) after
    else .error (.token c.mark)

private def isOrdinary (ch : Char) : Bool :=
  !(ch == '\'' || ch == '"' || ch == '\\' || ch == '\t' || ch == ' ' || isNewline ch)

/-- The text up to the next blank or closing quote. -/
def readQuotedWord (double : Bool) : Nat → Cursor → Except Fault (List Char × Cursor)
  | 0, c => .ok ([], c)
  | fuel + 1, c =>
    let (plain, here) := c.span isOrdinary
    let ch := here.char
    let go (text : List Char) (after : Cursor) : Except Fault (List Char × Cursor) := do
      let (more, after) ← readQuotedWord double fuel after
      return (plain ++ text ++ more, after)
    if !double && ch == '\'' && here.peek 1 == '\'' then go ['\''] (here.skip 2)
    else if (double && ch == '\'') || (!double && (ch == '"' || ch == '\\')) then go [ch] here.next
    else if double && ch == '\\' then do
      let (text, after) ← readEscape here.next
      go text after
    else .ok (plain, here)

private def readQuotedRest (double : Bool) (quote : Char) :
    Nat → Cursor → Except Fault (List Char × Cursor)
  | 0, c => .error (.token c.mark)
  | fuel + 1, c =>
    if c.char = quote then .ok ([], c.next)
    else do
      let (blanks, after) ← readQuotedBlanks c
      let (word, after) ← readQuotedWord double (after.rest.length + 1) after
      let (more, after) ← readQuotedRest double quote fuel after
      return (blanks ++ word ++ more, after)

/-- A scalar in quotes, from its opening quote on. -/
def readQuoted (c : Cursor) : Except Fault (String × Cursor) := do
  let quote := c.char
  let double := quote == '"'
  let (word, after) ← readQuotedWord double (c.rest.length + 1) c.next
  let (more, after) ← readQuotedRest double quote (after.rest.length + 1) after
  return (String.ofList (word ++ more), after)

end Sidecar.Yaml
