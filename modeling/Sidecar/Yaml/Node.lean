import Sidecar.Yaml.Tag
import Sidecar.Yaml.Token.Lexer

/-!
Documents as trees of tagged nodes, read from tokens.
-/

namespace Sidecar.Yaml

inductive Node where
  | scalar (tag : Tag) (text : String) (start : Mark)
  | sequence (tag : Tag) (items : List Node) (start : Mark)
  | mapping (tag : Tag) (entries : List (Node × Node)) (start : Mark)
  deriving Repr

namespace Node

def start : Node → Mark
  | .scalar _ _ m | .sequence _ _ m | .mapping _ _ m => m

def tag : Node → Tag
  | .scalar t .. | .sequence t .. | .mapping t .. => t

end Node

structure NodeReader where
  lexer : Lexer
  /-- What the handles of tags stand for. -/
  handles : List (String × String) := []
  /-- The anchors of the document; a node that is not complete has none yet. -/
  anchors : List (String × Option Node) := []

abbrev Reading := StateT NodeReader (Except Fault)

namespace NodeReader

def peek : Reading Token := do
  let r ← get
  let (token, lexer) ← r.lexer.peek
  set { r with lexer }
  return token

def drop : Reading Unit := modify fun r => { r with lexer := r.lexer.drop }

/-- The place after an indicator of one character. -/
def afterIndicator (m : Mark) : Mark := ⟨m.index + 1, m.line, m.column + 1⟩

def emptyScalar (start : Mark) : Node := .scalar (.implied "") "" start

/-- The anchor and the tag in front of a node, and where they start. -/
structure Properties where
  anchor : Option String := none
  tag : Option (TagText × Mark) := none
  start : Option Mark := none

def readAnchor : Reading (Option String × Option Mark) := do
  let token ← peek
  match token.kind with
  | .anchor name => drop; return (some name, some token.start)
  | _ => return (none, none)

def readTagText : Reading (Option (TagText × Mark)) := do
  let token ← peek
  match token.kind with
  | .tag text => drop; return some (text, token.start)
  | _ => return none

def readProperties : Reading Properties := do
  match ← readAnchor with
  | (some name, start) => return { anchor := name, tag := ← readTagText, start }
  | (none, _) =>
    match ← readTagText with
    | some (text, start) => return { anchor := (← readAnchor).1, tag := (text, start), start }
    | none => return {}

/-- The full name of a tag. -/
def resolveTag : Option (TagText × Mark) → Reading (Option String)
  | none => return none
  | some ({ handle := none, suffix }, _) => return some suffix
  | some ({ handle := some handle, suffix }, mark) => do
    match (← get).handles.lookup handle with
    | some start => return some (start ++ suffix)
    | none => throw (.grammar mark)

/-- Notes that a node with an anchor starts. -/
def openAnchor (anchor : Option String) (start : Mark) : Reading Unit := do
  if let some name := anchor then
    if ((← get).anchors.lookup name).isSome then throw (.anchor start)
    modify fun r => { r with anchors := (name, none) :: r.anchors }

def closeAnchor (anchor : Option String) (node : Node) : Reading Node := do
  if let some name := anchor then
    modify fun r => { r with anchors := (name, some node) :: r.anchors }
  return node

/-- The node of an anchor. One that is still open would contain itself. -/
def resolveReference (name : String) (start : Mark) : Reading Node := do
  match (← get).anchors.lookup name with
  | some (some node) => return node
  | some none => throw (.recursive start)
  | none => throw (.anchor start)

/-- The tag of a scalar: its own, or by its form, or that of a text. A lone `!` asks for the form. -/
def scalarTag (name : Option String) (text : String) (plain : Bool) : Tag :=
  match name with
  | none => if plain then .implied text else .str
  | some "!" => .implied text
  | some name => .ofName name

def collectionTag (name : Option String) (default : Tag) : Tag :=
  match name with
  | none | some "!" => default
  | some name => .ofName name

mutual

/-- Reads a node. In a block, collections in block style may follow; where `indentless`, also the
entries of a sequence that is not indented further than its key. -/
def readNode (block indentless : Bool) : Nat → Reading Node
  | 0 => throw (.grammar .start)
  | fuel + 1 => do
    let first ← peek
    match first.kind with
    | .reference name => drop; resolveReference name first.start
    | _ =>
      let properties ← readProperties
      let name ← resolveTag properties.tag
      let token ← peek
      let start := properties.start.getD token.start
      let sequence (read : Reading (List Node)) : Reading Node := do
        openAnchor properties.anchor start
        let items ← read
        closeAnchor properties.anchor (.sequence (collectionTag name .seq) items start)
      let mapping (read : Reading (List (Node × Node))) : Reading Node := do
        openAnchor properties.anchor start
        drop
        let entries ← read
        closeAnchor properties.anchor (.mapping (collectionTag name .map) entries start)
      let scalar (text : String) (plain : Bool) : Reading Node := do
        openAnchor properties.anchor start
        closeAnchor properties.anchor (.scalar (scalarTag name text plain) text start)
      match token.kind, indentless, block with
      | .blockEntry, true, _ => sequence (readIndentless fuel)
      | .scalar text plain, _, _ => drop; scalar text plain
      | .flowSequenceStart, _, _ => sequence do drop; readFlowSequence true fuel
      | .flowMappingStart, _, _ => mapping (readFlowMapping true fuel)
      | .blockSequenceStart, _, true => sequence do drop; readBlockSequence fuel
      | .blockMappingStart, _, true => mapping (readBlockMapping fuel)
      | _, _, _ =>
        if properties.start.isSome then scalar "" name.isNone else throw (.grammar token.start)

/-- A node in a block sequence, after its indicator; nothing may stand there. -/
def readEntry (ends : TokenKind → Bool) (block indentless : Bool) (indicator : Token) :
    Nat → Reading Node
  | 0 => throw (.grammar .start)
  | fuel + 1 => do
    if ends (← peek).kind then return emptyScalar (afterIndicator indicator.start)
    else readNode block indentless fuel

def readIndentless : Nat → Reading (List Node)
  | 0 => throw (.grammar .start)
  | fuel + 1 => do
    let token ← peek
    match token.kind with
    | .blockEntry =>
      drop
      let ends : TokenKind → Bool
        | .blockEntry | .key | .value | .blockEnd => true
        | _ => false
      let item ← readEntry ends true false token fuel
      return item :: (← readIndentless fuel)
    | _ => return []

def readBlockSequence : Nat → Reading (List Node)
  | 0 => throw (.grammar .start)
  | fuel + 1 => do
    let token ← peek
    match token.kind with
    | .blockEntry =>
      drop
      let ends : TokenKind → Bool
        | .blockEntry | .blockEnd => true
        | _ => false
      let item ← readEntry ends true false token fuel
      return item :: (← readBlockSequence fuel)
    | .blockEnd => drop; return []
    | _ => throw (.grammar token.start)

def readBlockMapping : Nat → Reading (List (Node × Node))
  | 0 => throw (.grammar .start)
  | fuel + 1 => do
    let token ← peek
    let ends : TokenKind → Bool
      | .key | .value | .blockEnd => true
      | _ => false
    match token.kind with
    | .key =>
      drop
      let key ← readEntry ends true true token fuel
      let value ← readMappingValue ends true true fuel
      return (key, value) :: (← readBlockMapping fuel)
    | .blockEnd => drop; return []
    | _ => throw (.grammar token.start)

/-- The value of a key that has been read. -/
def readMappingValue (ends : TokenKind → Bool) (block indentless : Bool) : Nat → Reading Node
  | 0 => throw (.grammar .start)
  | fuel + 1 => do
    let token ← peek
    match token.kind with
    | .value => drop; readEntry ends block indentless token fuel
    | _ => return emptyScalar token.start

/-- The comma between the entries of a flow collection. -/
private def readComma (first : Bool) : Nat → Reading Unit
  | 0 => throw (.grammar .start)
  | _ + 1 => do
    unless first do
      let token ← peek
      match token.kind with
      | .flowEntry => drop
      | _ => throw (.grammar token.start)

def readFlowSequence (first : Bool) : Nat → Reading (List Node)
  | 0 => throw (.grammar .start)
  | fuel + 1 => do
    let closing : TokenKind → Bool
      | .flowSequenceEnd => true
      | _ => false
    if closing (← peek).kind then drop; return []
    readComma first fuel
    let token ← peek
    match token.kind with
    | .flowSequenceEnd => drop; return []
    | .key =>
      drop
      let keyEnds : TokenKind → Bool
        | .value | .flowEntry | .flowSequenceEnd => true
        | _ => false
      let ends : TokenKind → Bool
        | .flowEntry | .flowSequenceEnd => true
        | _ => false
      let key ← readEntry keyEnds false false token fuel
      let value ← readMappingValue ends false false fuel
      return .mapping .map [(key, value)] token.start :: (← readFlowSequence false fuel)
    | _ =>
      let item ← readNode false false fuel
      return item :: (← readFlowSequence false fuel)

def readFlowMapping (first : Bool) : Nat → Reading (List (Node × Node))
  | 0 => throw (.grammar .start)
  | fuel + 1 => do
    let closing : TokenKind → Bool
      | .flowMappingEnd => true
      | _ => false
    if closing (← peek).kind then drop; return []
    readComma first fuel
    let token ← peek
    match token.kind with
    | .flowMappingEnd => drop; return []
    | .key =>
      drop
      let keyEnds : TokenKind → Bool
        | .value | .flowEntry | .flowMappingEnd => true
        | _ => false
      let ends : TokenKind → Bool
        | .flowEntry | .flowMappingEnd => true
        | _ => false
      let key ← readEntry keyEnds false false token fuel
      let value ← readMappingValue ends false false fuel
      return (key, value) :: (← readFlowMapping false fuel)
    | _ =>
      let key ← readNode false false fuel
      let after ← peek
      return (key, emptyScalar after.start) :: (← readFlowMapping false fuel)

end

/-- What the handles stand for unless a directive gives them another meaning. -/
def standardHandles : List (String × String) := [("!", "!"), ("!!", Tag.base)]

private def readDirectives : Nat → Bool → List (String × String) → Reading (List (String × String))
  | 0, _, handles => return handles
  | fuel + 1, versioned, handles => do
    let token ← peek
    match token.kind with
    | .directive d =>
      drop
      match d with
      | .version major _ =>
        if versioned || major ≠ 1 then throw (.grammar token.start)
        readDirectives fuel true handles
      | .tag handle start =>
        if (handles.lookup handle).isSome then throw (.grammar token.start)
        readDirectives fuel versioned (handles ++ [(handle, start)])
      | .other => readDirectives fuel versioned handles
    | _ => return handles

def dropDocumentEnds : Nat → Reading Unit
  | 0 => return
  | fuel + 1 => do
    match (← peek).kind with
    | .documentEnd => drop; dropDocumentEnds fuel
    | _ => return

/-- Enough steps for a text of this length: tokens are at most a few per character. -/
def stepsFor (length : Nat) : Nat := 16 * length + 64

def steps : Reading Nat := return stepsFor (← get).lexer.cursor.rest.length

/-- A document after its start; the mark at its end is passed too, if there is one. -/
def readBody (empty : TokenKind → Bool) : Reading Node := do
  let token ← peek
  let node ← if empty token.kind then pure (emptyScalar token.start) else readNode true false (← steps)
  match (← peek).kind with
  | .documentEnd => drop
  | _ => pure ()
  modify fun r => { r with anchors := [] }
  return node

/-- The next document, if there is one. Only the first document may do without a start mark. -/
def readDocument (first : Bool) : Reading (Option Node) := do
  let token ← peek
  let explicit := match token.kind with
    | .directive _ | .documentStart | .streamEnd => true
    | _ => false
  if first && !explicit then
    modify fun r => { r with handles := standardHandles }
    return some (← readBody fun _ => false)
  else
    dropDocumentEnds (← steps)
    match (← peek).kind with
    | .streamEnd => return none
    | _ =>
      let handles ← readDirectives (← steps) false []
      modify fun r => { r with handles := handles ++ standardHandles }
      let token ← peek
      match token.kind with
      | .documentStart =>
        drop
        return some (← readBody fun
          | .directive _ | .documentStart | .documentEnd | .streamEnd => true
          | _ => false)
      | _ => throw (.grammar token.start)

end NodeReader

end Sidecar.Yaml
