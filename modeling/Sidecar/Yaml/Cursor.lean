/-!
A place in a text, with its line and column.
-/

namespace Sidecar.Yaml

/-- Lines and columns count from zero. -/
structure Mark where
  index : Nat
  line : Nat
  column : Nat
  deriving DecidableEq, Repr, Inhabited

/-- What stands for the end of the text; the character itself is never part of one. -/
def endOfText : Char := Char.ofNat 0

def isNewline (c : Char) : Bool :=
  c == '\n' || c == '\r' || c == '\x85' || c == '\u2028' || c == '\u2029'

def isNewlineOrEnd (c : Char) : Bool := c == endOfText || isNewline c

/-- Tabs do not count here. -/
def isSpaceOrEnd (c : Char) : Bool := c == ' ' || isNewlineOrEnd c

def isBlankOrEnd (c : Char) : Bool := c == '\t' || isSpaceOrEnd c

def byteOrderMark : Char := '\ufeff'

namespace Mark

def start : Mark := ⟨0, 0, 0⟩

/-- The mark after a character, given the one that follows it. A byte order mark has no width. -/
def after (m : Mark) (c next : Char) : Mark :=
  if c = '\n' ∨ c = '\x85' ∨ c = '\u2028' ∨ c = '\u2029' ∨ c = '\r' ∧ next ≠ '\n' then
    ⟨m.index + 1, m.line + 1, 0⟩
  else if c = byteOrderMark then ⟨m.index + 1, m.line, m.column⟩
  else ⟨m.index + 1, m.line, m.column + 1⟩

end Mark

/-- The rest of a text from a place on. -/
structure Cursor where
  rest : List Char
  mark : Mark
  deriving Repr, Inhabited

namespace Cursor

def ofText (cs : List Char) : Cursor := ⟨cs, .start⟩

/-- The character `n` places ahead. -/
def peek (c : Cursor) (n : Nat) : Char := c.rest.getD n endOfText

def char (c : Cursor) : Char := c.rest.headD endOfText

def next (c : Cursor) : Cursor :=
  match c.rest with
  | [] => c
  | ch :: rest => ⟨rest, c.mark.after ch (rest.headD endOfText)⟩

def skip : Nat → Cursor → Cursor
  | 0, c => c
  | n + 1, c => skip n c.next

def spanFrom (p : Char → Bool) : Mark → List Char → List Char × Cursor
  | m, [] => ([], ⟨[], m⟩)
  | m, ch :: rest =>
    if p ch then
      let (taken, c) := spanFrom p (m.after ch (rest.headD endOfText)) rest
      (ch :: taken, c)
    else ([], ⟨ch :: rest, m⟩)

/-- The characters of a class ahead, and the place after them. -/
def span (p : Char → Bool) (c : Cursor) : List Char × Cursor := spanFrom p c.mark c.rest

def dropWhile (p : Char → Bool) (c : Cursor) : Cursor := (c.span p).2

def skipSpaces (c : Cursor) : Cursor := c.dropWhile (· == ' ')

/-- Passes a line break and gives what it is read as, or nothing where there is none. -/
def lineBreak (c : Cursor) : List Char × Cursor :=
  let ch := c.char
  if ch = '\r' ∧ c.peek 1 = '\n' then (['\n'], c.skip 2)
  else if ch = '\r' ∨ ch = '\n' ∨ ch = '\x85' then (['\n'], c.next)
  else if ch = '\u2028' ∨ ch = '\u2029' then ([ch], c.next)
  else ([], c)

/-- Whether `---` or `...`, set off by a blank, stands ahead. -/
def atSeparator (c : Cursor) : Bool :=
  (c.rest.take 3 == ['-', '-', '-'] || c.rest.take 3 == ['.', '.', '.']) && isBlankOrEnd (c.peek 3)

end Cursor

end Sidecar.Yaml
