import Sidecar.Yaml.Token.Property

/-!
Reading plain scalars.
-/

namespace Sidecar.Yaml

def isFlowPunctuation (ch : Char) : Bool := ",[]\x7b\x7d".toList.contains ch

/-- The text of a plain scalar up to a blank or to punctuation. -/
def plainWord (flow : Bool) : List Char → List Char
  | [] => []
  | ch :: rest =>
    let next := rest.headD endOfText
    if isBlankOrEnd ch || (ch == ':' && (isBlankOrEnd next || (flow && isFlowPunctuation next)))
      || (flow && (ch == '?' || isFlowPunctuation ch)) then []
    else ch :: plainWord flow rest

/-- Blank lines; nothing if a document separator stands in front of one of them. -/
private def plainBreaks : Nat → Cursor → Option (List Char) × Cursor
  | 0, c => (some [], c)
  | fuel + 1, c =>
    if c.char = ' ' then plainBreaks fuel c.next
    else if isNewline c.char then
      let (lineBreak, after) := c.lineBreak
      if after.atSeparator then (none, after)
      else
        let (more, after) := plainBreaks fuel after
        (more.map (lineBreak ++ ·), after)
    else (some [], c)

/-- Blanks between the words of a plain scalar: what they are read as, and whether a line ended. -/
structure PlainGap where
  text : List Char
  brokeLine : Bool

def plainGap (c : Cursor) : PlainGap × Cursor :=
  let (spaces, after) := c.span (· == ' ')
  if isNewline after.char then
    let (lineBreak, after) := after.lineBreak
    if after.atSeparator then (⟨[], true⟩, after)
    else
      match plainBreaks (after.rest.length + 1) after with
      | (none, after) => (⟨[], true⟩, after)
      | (some breaks, after) =>
        let first := if lineBreak ≠ ['\n'] then lineBreak else if breaks.isEmpty then [' '] else []
        (⟨first ++ breaks, true⟩, after)
  else (⟨spaces, false⟩, after)

/-- What is read of a plain scalar. The flag tells whether a line ended after the last word. -/
structure PlainText where
  text : List Char
  brokeLine : Bool

/-- Words and the gaps between them. A line indented less than `indent` ends a scalar outside of
brackets. -/
def plainWords (flow : Bool) (indent : Int) :
    Nat → PlainText → List Char → Cursor → PlainText × Cursor
  | 0, done, _, c => (done, c)
  | fuel + 1, done, gap, c =>
    let word := if c.char = '#' then [] else plainWord flow c.rest
    if word.isEmpty then (done, c)
    else
      let (next, after) := plainGap (c.skip word.length)
      let done : PlainText := ⟨done.text ++ gap ++ word, next.brokeLine⟩
      if next.text.isEmpty ∨ after.char = '#' ∨ (¬ flow ∧ after.mark.column < indent) then
        (done, after)
      else plainWords flow indent fuel done next.text after

def readPlain (flow : Bool) (indent : Int) (c : Cursor) : PlainText × Cursor :=
  plainWords flow indent (c.rest.length + 1) ⟨[], false⟩ [] c

end Sidecar.Yaml
