import Sidecar.Yaml.Token.Block
import Sidecar.Yaml.Token.Plain
import Sidecar.Yaml.Token.Quoted

/-!
Reading tokens one at a time. A `key` token is known to be one only when the `value` indicator after
it is seen, so a token is handed out only when no key can start at it any more.
-/

namespace Sidecar.Yaml

/-- A place where a key may have started. A required key is the only way to go on. -/
structure Candidate where
  number : Nat
  required : Bool
  mark : Mark
  deriving Repr

structure Lexer where
  cursor : Cursor
  /-- Tokens read but not handed out. -/
  queue : List Token := []
  /-- The number of tokens handed out. -/
  taken : Nat := 0
  /-- Open brackets; closing ones that nothing opened make it negative. -/
  flow : Int := 0
  indent : Int := -1
  indents : List Int := []
  keyAllowed : Bool := true
  candidates : List (Int × Candidate) := []
  finished : Bool := false
  deriving Repr

namespace Lexer

def ofText (cs : List Char) : Lexer :=
  let c := Cursor.ofText cs
  { cursor := if c.char = byteOrderMark then c.next else c }

variable (l : Lexer)

def mark : Mark := l.cursor.mark

def inFlow : Bool := l.flow ≠ 0

def push (kind : TokenKind) (mark : Mark) : Lexer :=
  { l with queue := l.queue ++ [⟨kind, mark⟩] }

/-- Keys end on their line and within 1024 characters. -/
def dropStale : Except Fault Lexer :=
  let isStale (k : Candidate) : Bool :=
    k.mark.line ≠ l.mark.line || 1024 < l.mark.index - k.mark.index
  if l.candidates.any fun (_, k) => isStale k && k.required then .error (.token l.mark)
  else .ok { l with candidates := l.candidates.filter fun (_, k) => !isStale k }

/-- Gives up the candidate on the current level. -/
def dropCandidate : Except Fault Lexer :=
  match l.candidates.lookup l.flow with
  | none => .ok l
  | some k =>
    if k.required then .error (.token l.mark)
    else .ok { l with candidates := l.candidates.filter (·.1 ≠ l.flow) }

/-- Notes that a key may start here. -/
def noteCandidate : Except Fault Lexer :=
  if l.keyAllowed then do
    let required := !l.inFlow && l.indent = l.mark.column
    let l ← l.dropCandidate
    let k : Candidate := ⟨l.taken + l.queue.length, required, l.mark⟩
    return { l with candidates := l.candidates ++ [(l.flow, k)] }
  else .ok l

def unwindFrom (column : Int) (mark : Mark) : List Int → Int → List Token × List Int × Int
  | indents, indent =>
    match indents with
    | [] => ([], [], indent)
    | outer :: rest =>
      if column < indent then
        let (tokens, rest, indent) := unwindFrom column mark rest outer
        (⟨.blockEnd, mark⟩ :: tokens, rest, indent)
      else ([], outer :: rest, indent)

/-- Closes the blocks that are indented further than a column. -/
def unwind (column : Int) : Lexer :=
  if l.inFlow then l
  else
    let (ends, indents, indent) := unwindFrom column l.mark l.indents l.indent
    { l with queue := l.queue ++ ends, indents := indents, indent := indent }

/-- Opens a block at the current column unless one is open there. -/
def openBlock (kind : TokenKind) : Lexer :=
  let column : Int := l.mark.column
  if l.indent < column then
    { l with indents := l.indent :: l.indents, indent := column }.push kind l.mark
  else l

def skipToToken : Nat → Lexer → Lexer
  | 0, l => l
  | fuel + 1, l =>
    let c := l.cursor.skipSpaces
    let c := if c.char = '#' then c.dropWhile (!isNewlineOrEnd ·) else c
    if isNewline c.char then
      skipToToken fuel { l with cursor := c.lineBreak.2, keyAllowed := l.keyAllowed || !l.inFlow }
    else { l with cursor := c }

/-- Takes an indicator of the given width as a token. -/
def take (width : Nat) (kind : TokenKind) : Lexer :=
  { l.push kind l.mark with cursor := l.cursor.skip width }

def readStreamEnd : Except Fault Lexer := do
  let l ← (l.unwind (-1)).dropCandidate
  return { l.push .streamEnd l.mark with keyAllowed := false, candidates := [], finished := true }

def readDirectiveToken : Except Fault Lexer := do
  let l ← (l.unwind (-1)).dropCandidate
  let (directive, after) ← readDirective l.cursor
  return { l.push (.directive directive) l.mark with keyAllowed := false, cursor := after }

def readSeparator (kind : TokenKind) : Except Fault Lexer := do
  let l ← (l.unwind (-1)).dropCandidate
  return { l with keyAllowed := false }.take 3 kind

def readFlowStart (kind : TokenKind) : Except Fault Lexer := do
  let l ← l.noteCandidate
  return { l with flow := l.flow + 1, keyAllowed := true }.take 1 kind

def readFlowEnd (kind : TokenKind) : Except Fault Lexer := do
  let l ← l.dropCandidate
  return { l with flow := l.flow - 1, keyAllowed := false }.take 1 kind

def readFlowEntry : Except Fault Lexer := do
  let l ← { l with keyAllowed := true }.dropCandidate
  return l.take 1 .flowEntry

def readBlockEntry : Except Fault Lexer := do
  if !l.inFlow && !l.keyAllowed then throw (.token l.mark)
  let l := if l.inFlow then l else l.openBlock .blockSequenceStart
  let l ← { l with keyAllowed := true }.dropCandidate
  return l.take 1 .blockEntry

def readKey : Except Fault Lexer := do
  if !l.inFlow && !l.keyAllowed then throw (.token l.mark)
  let l := if l.inFlow then l else l.openBlock .blockMappingStart
  let l ← { l with keyAllowed := !l.inFlow }.dropCandidate
  return l.take 1 .key

/-- Puts a key token, and the start of its mapping if it is the first, where the key has started. -/
private def insertKey (k : Candidate) : Lexer :=
  let opens := !l.inFlow && l.indent < k.mark.column
  let tokens : List Token :=
    (if opens then [⟨.blockMappingStart, k.mark⟩] else []) ++ [⟨.key, k.mark⟩]
  let position := k.number - l.taken
  { l with
    queue := l.queue.take position ++ tokens ++ l.queue.drop position
    indents := if opens then l.indent :: l.indents else l.indents
    indent := if opens then k.mark.column else l.indent }

def readValue : Except Fault Lexer := do
  match l.candidates.lookup l.flow with
  | some k =>
    let l := { l with candidates := l.candidates.filter (·.1 ≠ l.flow) }
    return { insertKey l k with keyAllowed := false }.take 1 .value
  | none =>
    if !l.inFlow && !l.keyAllowed then throw (.token l.mark)
    let l := if l.inFlow then l else l.openBlock .blockMappingStart
    let l ← { l with keyAllowed := !l.inFlow }.dropCandidate
    return l.take 1 .value

/-- A token that may be the start of a key. -/
def readContent {α : Type} (read : Cursor → Except Fault (α × Cursor)) (kind : α → TokenKind) :
    Except Fault Lexer := do
  let l ← l.noteCandidate
  let (a, after) ← read l.cursor
  return { l.push (kind a) l.mark with keyAllowed := false, cursor := after }

def readBlockScalar : Except Fault Lexer := do
  let l ← { l with keyAllowed := true }.dropCandidate
  let (text, after) ← readBlock l.indent l.cursor
  return { l.push (.scalar text false) l.mark with cursor := after }

def readPlainScalar : Except Fault Lexer := do
  let l ← l.noteCandidate
  let (plain, after) := readPlain l.inFlow (l.indent + 1) l.cursor
  return { l.push (.scalar (String.ofList plain.text) true) l.mark with
    keyAllowed := plain.brokeLine, cursor := after }

/-- Whether a plain scalar starts here. -/
def atPlain : Bool :=
  let ch := l.cursor.char
  !(isBlankOrEnd ch || "-?:,[]\x7b\x7d#&*!|>'\"%@`".toList.contains ch)
    || (!isBlankOrEnd (l.cursor.peek 1) && (ch = '-' || (!l.inFlow && (ch = '?' || ch = ':'))))

/-- Reads the next token, with those that its place implies. -/
def readToken : Except Fault Lexer := do
  let l ← (skipToToken (l.cursor.rest.length + 1) l).dropStale
  let l := l.unwind l.mark.column
  let ch := l.cursor.char
  let blankAhead := isBlankOrEnd (l.cursor.peek 1)
  let lineStart := l.mark.column = 0
  if ch = endOfText then l.readStreamEnd
  else if ch = '%' ∧ lineStart then l.readDirectiveToken
  else if ch = '-' ∧ lineStart ∧ l.cursor.atSeparator then l.readSeparator .documentStart
  else if ch = '.' ∧ lineStart ∧ l.cursor.atSeparator then l.readSeparator .documentEnd
  else if ch = '[' then l.readFlowStart .flowSequenceStart
  else if ch = '{' then l.readFlowStart .flowMappingStart
  else if ch = ']' then l.readFlowEnd .flowSequenceEnd
  else if ch = '}' then l.readFlowEnd .flowMappingEnd
  else if ch = ',' then l.readFlowEntry
  else if ch = '-' ∧ blankAhead then l.readBlockEntry
  else if ch = '?' ∧ (l.inFlow ∨ blankAhead) then l.readKey
  else if ch = ':' ∧ (l.inFlow ∨ blankAhead) then l.readValue
  else if ch = '*' then l.readContent readAnchorName .reference
  else if ch = '&' then l.readContent readAnchorName .anchor
  else if ch = '!' then l.readContent readTag .tag
  else if (ch = '|' ∨ ch = '>') ∧ ¬ l.inFlow then l.readBlockScalar
  else if ch = '\'' ∨ ch = '"' then l.readContent readQuoted fun text => .scalar text false
  else if l.atPlain then l.readPlainScalar
  else throw (.token l.mark)

/-- Whether the first token in the queue can be handed out. -/
def isReady : Bool :=
  l.finished || (!l.queue.isEmpty && !(l.candidates.any fun (_, k) => k.number = l.taken))

/-- Reads on until the first token in the queue can be handed out. -/
def fill : Nat → Lexer → Except Fault Lexer
  | 0, l => .ok l
  | fuel + 1, l => do
    let l ← if l.finished || l.queue.isEmpty then .ok l else l.dropStale
    if l.isReady then return l else fill fuel (← l.readToken)

/-- The next token, which stays the next one. -/
def peek : Except Fault (Token × Lexer) := do
  let l ← if l.finished then .ok l else fill (l.cursor.rest.length + 3) l
  return (l.queue.headD ⟨.streamEnd, l.mark⟩, l)

/-- Goes past the next token, which has been looked at. -/
def drop : Lexer := { l with queue := l.queue.tail, taken := l.taken + 1 }

end Lexer

end Sidecar.Yaml
