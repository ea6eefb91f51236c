import Sidecar.Yaml.Cursor
import Sidecar.Yaml.Tag

/-!
In which style a scalar can be written so that it reads as it should.
-/

namespace Sidecar.Yaml

/-- What the text of a scalar allows. Plain means plain in block context, which is the only one that
scalars are written in. -/
structure Allowance where
  multiline : Bool
  plain : Bool
  singleQuoted : Bool
  block : Bool
  deriving DecidableEq, Repr

private def isBreak (c : Char) : Bool := c == '\n' || c == '\x85' || c == '\u2028' || c == '\u2029'

/-- Whether a character is written as itself outside of double quotes. -/
private def isDirect (c : Char) : Bool := c == '\n' || (' ' ≤ c && c ≤ '~')

/-- Each character with the one before it and the one after it; the end of the text stands for those
that are missing. -/
private def neighbours (before : Char) : List Char → List (Char × Char × Char)
  | [] => []
  | c :: rest => (before, c, rest.headD endOfText) :: neighbours c rest

/-- Whether an indicator at the start of a text, or one that is set off by a blank within it, would
end or change a plain scalar. -/
private def hasIndicator (cs : List Char) : Bool :=
  cs.take 3 == ['-', '-', '-'] || cs.take 3 == ['.', '.', '.'] ||
  (match cs with
    | [] => false
    | c :: rest =>
      "#,[]\x7b\x7d&*!|>'\"%@`".toList.contains c
        || ("?:-".toList.contains c && isBlankOrEnd (rest.headD endOfText))) ||
  ((neighbours endOfText cs).drop 1).any fun (before, c, next) =>
    (c == ':' && isBlankOrEnd next) || (c == '#' && isBlankOrEnd before)

def Allowance.ofText (cs : List Char) : Allowance :=
  if cs.isEmpty then ⟨false, true, true, false⟩
  else
    let first := cs.headD endOfText
    let last := cs.getLastD endOfText
    let pairs := cs.zip (cs.drop 1)
    let multiline := cs.any isBreak
    let breakThenSpace := pairs.any fun (a, b) => isBreak a && b == ' '
    let spaceThenBreak := pairs.any fun (a, b) => a == ' ' && isBreak b
    let special := cs.any fun c => !isDirect c
    let edges := first == ' ' || isBreak first || last == ' ' || isBreak last
    { multiline
      plain := !(edges || breakThenSpace || spaceThenBreak || special || multiline || hasIndicator cs)
      singleQuoted := !(breakThenSpace || spaceThenBreak || special)
      block := !(last == ' ' || spaceThenBreak || special) }

inductive Style where
  | plain
  | singleQuoted
  | doubleQuoted
  | literal
  deriving DecidableEq, Repr

/-- The tag and the text of a scalar. Binary data are written literally where they can be. -/
structure Scalar where
  tag : Tag
  text : String
  deriving DecidableEq, Repr

namespace Scalar

/-- Whether the plain form of the text reads as the scalar. -/
def plainReads (s : Scalar) : Bool := Tag.implied s.text = s.tag

def allowance (s : Scalar) : Allowance := .ofText s.text.toList

def style (s : Scalar) (isKey : Bool) : Style :=
  let a := s.allowance
  if s.tag = .binary then
    if !isKey && a.block then .literal else .doubleQuoted
  else if s.plainReads && a.plain && !(isKey && (s.text.isEmpty || a.multiline)) then .plain
  else if a.singleQuoted && !(isKey && a.multiline) then .singleQuoted
  else .doubleQuoted

/-- Whether the tag has to be written for the scalar to read as it is. -/
def needsTag (s : Scalar) (style : Style) : Bool :=
  if style = .plain then !s.plainReads else s.tag ≠ .str

end Scalar

namespace Tag

/-- The short form of a tag. -/
def short (t : Tag) : String :=
  match standard.find? (·.2 = t) with
  | some (word, _) => "!!" ++ word
  | none => "!"

end Tag

end Sidecar.Yaml
