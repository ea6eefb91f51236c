import Sidecar.Text.Utf8
import Sidecar.Yaml.Fault
import Sidecar.Yaml.Token

/-!
Reading anchors, aliases, tags and directives.
-/

namespace Sidecar.Yaml

def isWordChar (c : Char) : Bool := c.isAlphanum || c == '-' || c == '_'

def isUriChar (c : Char) : Bool := c.isAlphanum || "-;/?:@&=+$,_.!~*'()[]".toList.contains c

def hexValue? (c : Char) : Option Nat :=
  let n := c.toNat
  if 48 ≤ n && n ≤ 57 then some (n - 48)
  else if 97 ≤ n && n ≤ 102 then some (n - 87)
  else if 65 ≤ n && n ≤ 70 then some (n - 55)
  else none

/-- The value of the next `digits` hexadecimal digits. -/
def hexNumber? (digits : Nat) (c : Cursor) : Option Nat :=
  (List.range digits).foldlM (fun n i => (hexValue? (c.peek i)).map (n * 16 + ·)) 0

/-- The name of an anchor, or of a reference to one, after its indicator. -/
def readAnchorName (c : Cursor) : Except Fault (String × Cursor) :=
  let (name, after) := c.next.span isWordChar
  if name.isEmpty then .error (.token after.mark)
  else if isBlankOrEnd after.char || "?:,]\x7d%@`".toList.contains after.char then
    .ok (String.ofList name, after)
  else .error (.token after.mark)

/-- A run of bytes given by percent escapes. -/
def readEscapedBytes : Nat → Cursor → Except Fault (List UInt8 × Cursor)
  | 0, c => .ok ([], c)
  | fuel + 1, c =>
    if c.char = '%' then
      let digits := c.next
      match hexNumber? 2 digits with
      | none => .error (.token digits.mark)
      | some n => do
        let (bytes, after) ← readEscapedBytes fuel (digits.skip 2)
        return (UInt8.ofNat n :: bytes, after)
    else .ok ([], c)

def readUriChars : Nat → Cursor → Except Fault (List Char × Cursor)
  | 0, c => .ok ([], c)
  | fuel + 1, c =>
    let (plain, after) := c.span isUriChar
    if after.char = '%' then do
      let (bytes, later) ← readEscapedBytes (after.rest.length + 1) after
      match Utf8.decodeChars? bytes with
      | none => throw (.token after.mark)
      | some escaped =>
        let (more, later) ← readUriChars fuel later
        return (plain ++ escaped ++ more, later)
    else .ok (plain, after)

/-- The rest of a tag. It is not empty unless it is made of escapes. -/
def readUri (c : Cursor) : Except Fault (String × Cursor) := do
  let (chars, after) ← readUriChars (c.rest.length + 1) c
  if after.mark = c.mark then throw (.token after.mark)
  return (String.ofList chars, after)

/-- `!`, `!!` or a word between exclamation marks. -/
def readHandle (c : Cursor) : Except Fault (String × Cursor) :=
  if c.char ≠ '!' then .error (.token c.mark)
  else if c.peek 1 = ' ' then .ok ("!", c.next)
  else
    let (word, after) := c.next.span isWordChar
    if after.char = '!' then .ok (String.ofList ('!' :: (word ++ ['!'])), after.next)
    else .error (.token after.mark)

def readTag (c : Cursor) : Except Fault (TagText × Cursor) := do
  let next := c.peek 1
  let (tag, after) ← (
    if next = '<' then do
      let (suffix, after) ← readUri (c.skip 2)
      if after.char ≠ '>' then throw (.token after.mark)
      return ({ handle := none, suffix }, after.next)
    else if isBlankOrEnd next then .ok ({ handle := none, suffix := "!" }, c.next)
    else do
      let (body, _) := c.next.span fun ch => !isSpaceOrEnd ch
      let (handle, after) ← if body.contains '!' then readHandle c else .ok ("!", c.next)
      let (suffix, after) ← readUri after
      return ({ handle := some handle, suffix }, after) : Except Fault (TagText × Cursor))
  if isSpaceOrEnd after.char then return (tag, after) else throw (.token after.mark)

/-- The rest of a line that may hold a comment only. -/
def readIgnoredLine (c : Cursor) : Except Fault Cursor :=
  let after := c.skipSpaces
  let after := if after.char = '#' then after.dropWhile (!isNewlineOrEnd ·) else after
  if isNewlineOrEnd after.char then .ok after.lineBreak.2 else .error (.token after.mark)

private def readVersionNumber (c : Cursor) : Except Fault (Nat × Cursor) :=
  let (digits, after) := c.span (·.isDigit)
  if digits.isEmpty then .error (.token after.mark)
  else if Literal.digitLimit < digits.length then .error (.scalar (.tooManyDigits digits.length))
  else .ok (digits.foldl (fun n d => n * 10 + (d.toNat - 48)) 0, after)

private def readDirectiveValue (name : String) (c : Cursor) : Except Fault (Directive × Cursor) := do
  if name = "YAML" then
    let (major, after) ← readVersionNumber c.skipSpaces
    if after.char ≠ '.' then throw (.token after.mark)
    let (minor, after) ← readVersionNumber after.next
    if isSpaceOrEnd after.char then return (.version major minor, after) else throw (.token after.mark)
  else if name = "TAG" then
    let (handle, after) ← readHandle c.skipSpaces
    if after.char ≠ ' ' then throw (.token after.mark)
    let (start, after) ← readUri after.skipSpaces
    if isSpaceOrEnd after.char then return (.tag handle start, after) else throw (.token after.mark)
  else return (.other, c.dropWhile (!isNewlineOrEnd ·))

def readDirective (c : Cursor) : Except Fault (Directive × Cursor) := do
  let (name, after) := c.next.span isWordChar
  if name.isEmpty then throw (.token after.mark)
  if !isSpaceOrEnd after.char then throw (.token after.mark)
  let (directive, after) ← readDirectiveValue (String.ofList name) after
  return (directive, ← readIgnoredLine after)

end Sidecar.Yaml
