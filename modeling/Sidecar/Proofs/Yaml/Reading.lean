import Sidecar.Yaml.Document

/-!
How documents are read: what the lexer makes of a plain word, and what the reader makes of the token
that it looks at. A token that has been looked at stays the next one until it is dropped.
-/

namespace Sidecar.Yaml

/-- A character that stands for itself wherever it is in a plain scalar. -/
def IsPlain (c : Char) : Prop := isBlankOrEnd c = false ∧ c ≠ ':' ∧ c ≠ '#' ∧ c ≠ byteOrderMark

instance (c : Char) : Decidable (IsPlain c) := inferInstanceAs (Decidable (_ ∧ _))

section Plain

variable {w : List Char} (h : ∀ c ∈ w, IsPlain c)

theorem Mark.after_plain {c : Char} (m : Mark) (next : Char) (hc : IsPlain c) :
    m.after c next = ⟨m.index + 1, m.line, m.column + 1⟩ := by
  obtain ⟨hblank, -, -, hmark⟩ := hc
  simp only [isBlankOrEnd, isSpaceOrEnd, isNewlineOrEnd, isNewline, Bool.or_eq_false_iff,
    beq_eq_false_iff_ne] at hblank
  simp [Mark.after, hblank, hmark]

include h

theorem Cursor.skip_plain (rest : List Char) (m : Mark) :
    Cursor.skip w.length ⟨w ++ rest, m⟩ = ⟨rest, ⟨m.index + w.length, m.line, m.column + w.length⟩⟩ := by
  induction w generalizing m with
  | nil => rfl
  | cons c w ih =>
    simp only [List.length_cons, Cursor.skip, List.cons_append, Cursor.next]
    rw [ih fun d hd => h d (List.mem_cons_of_mem c hd), Mark.after_plain m _ (h c List.mem_cons_self)]
    simp only [Nat.add_assoc, Nat.add_comm 1]

theorem plainWord_plain : plainWord false w = w := by
  induction w with
  | nil => rfl
  | cons c w ih =>
    obtain ⟨hblank, hcolon, -, -⟩ := h c List.mem_cons_self
    rw [plainWord, ih fun d hd => h d (List.mem_cons_of_mem c hd)]
    simp [hblank, hcolon]

/-- The last word of a text is read to its end. -/
theorem readPlain_word (indent : Int) (m : Mark) (hne : w ≠ []) : readPlain false indent ⟨w, m⟩ =
    (⟨w, false⟩, ⟨[], ⟨m.index + w.length, m.line, m.column + w.length⟩⟩) := by
  obtain ⟨c, w, rfl⟩ := List.exists_cons_of_ne_nil hne
  have hskip := Cursor.skip_plain h [] m
  rw [List.append_nil] at hskip
  have hhash : c ≠ '#' := (h c List.mem_cons_self).2.2.1
  have hgap (m : Mark) : plainGap ⟨[], m⟩ = (⟨[], false⟩, ⟨[], m⟩) := rfl
  rw [readPlain, plainWords]
  simp only [Cursor.char, List.headD_cons, hhash, if_false, plainWord_plain h, hskip, hgap]
  simp

end Plain

namespace Lexer

theorem fill_of_isReady {l : Lexer} (h : l.isReady = true) (hstale : l.dropStale = .ok l) (fuel : Nat) :
    fill (fuel + 1) l = .ok l := by
  simp only [fill, hstale, ite_self, bind, Except.bind, h, if_true]
  rfl

theorem fill_of_readToken {l l' : Lexer} (h : l.isReady = false) (hstale : l.queue = [] ∨ l.dropStale = .ok l)
    (hread : l.readToken = .ok l') (fuel : Nat) : fill (fuel + 1) l = fill fuel l' := by
  rcases hstale with hempty | hstale
  · simp only [fill, hempty, List.isEmpty_nil, Bool.or_true, if_true, h, hread, Bool.false_eq_true,
      if_false, bind, Except.bind]
  · simp only [fill, hstale, h, hread, Bool.false_eq_true, if_false, ite_self, bind, Except.bind]

/-- The next token is the first one that is read where no key can start at it. -/
theorem peek_of_readToken {l l' : Lexer} {t : Token} {queue : List Token}
    (h : l.readToken = .ok l') (hempty : l.queue = []) (hfinished : l.finished = false)
    (hqueue : l'.queue = t :: queue) (hcandidates : l'.candidates = []) : l.peek = .ok (t, l') := by
  have hready : l.isReady = false := by simp [isReady, hempty, hfinished]
  have hready' : l'.isReady = true := by simp [isReady, hqueue, hcandidates]
  have hstale : l'.dropStale = .ok l' := by
    obtain ⟨_, _, _, _, _, _, _, candidates, _⟩ := l'
    obtain rfl : candidates = [] := hcandidates
    rfl
  rw [peek, hfinished, fill_of_readToken hready (.inl hempty) h, fill_of_isReady hready' hstale]
  simp [hqueue, bind, Except.bind, pure, Except.pure]

end Lexer

namespace NodeReader

@[simp]
theorem bind_run {α β : Type} (x : Reading α) (f : α → Reading β) (r : NodeReader) :
    (x >>= f) r = match x r with
      | .error e => .error e
      | .ok (a, r') => f a r' := by
  simp only [bind, StateT.bind, Except.bind]
  cases x r <;> rfl

@[simp]
theorem map_run {α β : Type} (f : α → β) (x : Reading α) (r : NodeReader) :
    (f <$> x) r = match x r with
      | .error e => .error e
      | .ok (a, r') => .ok (f a, r') := by
  rw [map_eq_pure_bind, bind_run]
  rfl

@[simp]
theorem pure_run {α : Type} (a : α) (r : NodeReader) : (pure a : Reading α) r = .ok (a, r) := rfl

@[simp]
theorem get_run (r : NodeReader) : (get : Reading NodeReader) r = .ok (r, r) := rfl

@[simp]
theorem modify_run (f : NodeReader → NodeReader) (r : NodeReader) :
    (modify f : Reading Unit) r = .ok ((), f r) := rfl

@[simp]
theorem steps_run (r : NodeReader) : steps r = .ok (stepsFor r.lexer.cursor.rest.length, r) := rfl

@[simp]
theorem resolveTag_none (r : NodeReader) : resolveTag none r = .ok (none, r) := rfl

@[simp]
theorem openAnchor_none (m : Mark) (r : NodeReader) : openAnchor none m r = .ok ((), r) := rfl

@[simp]
theorem closeAnchor_none (node : Node) (r : NodeReader) : closeAnchor none node r = .ok (node, r) := rfl

section Tokens

variable {l l' l'' : Lexer} {handles : List (String × String)} {anchors : List (String × Option Node)}
  {t : Token} {text : String} {plain : Bool} {start start' : Mark}

@[simp]
theorem drop_run : drop ⟨l, handles, anchors⟩ = .ok ((), ⟨l.drop, handles, anchors⟩) := rfl

theorem peek_run (h : l.peek = .ok (t, l')) :
    peek ⟨l, handles, anchors⟩ = .ok (t, ⟨l', handles, anchors⟩) := by
  simp only [peek, bind_run, get_run, h]
  rfl

variable (handles anchors) in
/-- In front of a token that starts a node there are no properties. -/
theorem readProperties_none (h : l.peek = .ok (t, l)) (hanchor : ∀ name, t.kind ≠ .anchor name)
    (htag : ∀ tag, t.kind ≠ .tag tag) :
    readProperties ⟨l, handles, anchors⟩ = .ok ({}, ⟨l, handles, anchors⟩) := by
  have hreadAnchor : readAnchor ⟨l, handles, anchors⟩ = .ok ((none, none), ⟨l, handles, anchors⟩) := by
    simp only [readAnchor, bind_run, peek_run h, pure_run]
  have hreadTag : readTagText ⟨l, handles, anchors⟩ = .ok (none, ⟨l, handles, anchors⟩) := by
    simp only [readTagText, bind_run, peek_run h, pure_run]
  simp [readProperties, hreadAnchor, hreadTag]

section Nodes

variable (block indentless : Bool) (fuel : Nat)

theorem readNode_scalar (h : l.peek = .ok (⟨.scalar text plain, start⟩, l)) :
    readNode block indentless (fuel + 1) ⟨l, handles, anchors⟩ =
      .ok (.scalar (scalarTag none text plain) text start, ⟨l.drop, handles, anchors⟩) := by
  have hproperties := readProperties_none handles anchors h nofun nofun
  simp [readNode, peek_run h, hproperties]

/-- A scalar with a tag in front of it. -/
theorem readNode_tagged {handle suffix base : String}
    (htag : l.peek = .ok (⟨.tag ⟨some handle, suffix⟩, start⟩, l))
    (htext : l.drop.peek = .ok (⟨.scalar text plain, start'⟩, l'))
    (htext' : l'.peek = .ok (⟨.scalar text plain, start'⟩, l'))
    (hhandle : handles.lookup handle = some base) :
    readNode block indentless (fuel + 1) ⟨l, handles, anchors⟩ =
      .ok (.scalar (scalarTag (base ++ suffix) text plain) text start, ⟨l'.drop, handles, anchors⟩) := by
  have hproperties : readProperties ⟨l, handles, anchors⟩ =
      .ok ({ tag := some (⟨some handle, suffix⟩, start), start }, ⟨l', handles, anchors⟩) := by
    simp [readProperties, readAnchor, readTagText, peek_run htag, peek_run htext]
  simp [readNode, peek_run htag, hproperties, peek_run htext', resolveTag, hhandle]

theorem readNode_blockMapping {entries : List (Node × Node)} {r : NodeReader}
    (h : l.peek = .ok (⟨.blockMappingStart, start⟩, l))
    (hentries : readBlockMapping fuel ⟨l.drop, handles, anchors⟩ = .ok (entries, r)) :
    readNode true indentless (fuel + 1) ⟨l, handles, anchors⟩ = .ok (.mapping .map entries start, r) := by
  have hproperties := readProperties_none handles anchors h nofun nofun
  simp [readNode, peek_run h, hproperties, hentries, collectionTag]

theorem readEntry_node {ends : TokenKind → Bool} (indicator : Token) (h : l.peek = .ok (t, l'))
    (hends : ends t.kind = false) :
    readEntry ends block indentless indicator (fuel + 1) ⟨l, handles, anchors⟩ =
      readNode block indentless fuel ⟨l', handles, anchors⟩ := by
  simp [readEntry, peek_run h, hends]

theorem readMappingValue_value (ends : TokenKind → Bool) (h : l.peek = .ok (⟨.value, start⟩, l')) :
    readMappingValue ends block indentless (fuel + 1) ⟨l, handles, anchors⟩ =
      readEntry ends block indentless ⟨.value, start⟩ fuel ⟨l'.drop, handles, anchors⟩ := by
  simp [readMappingValue, peek_run h]

/-- The first entry of a block mapping. What ends it depends on the tokens that can follow only. -/
theorem readBlockMapping_key {key value : Node} {more : List (Node × Node)} {r r' r'' : NodeReader}
    (h : l.peek = .ok (⟨.key, start⟩, l'))
    (hkey : ∀ ends : TokenKind → Bool, (∀ text plain, ends (.scalar text plain) = false) →
      readEntry ends true true ⟨.key, start⟩ fuel ⟨l'.drop, handles, anchors⟩ = .ok (key, r))
    (hvalue : ∀ ends : TokenKind → Bool, (∀ tag, ends (.tag tag) = false) →
      readMappingValue ends true true fuel r = .ok (value, r'))
    (hmore : readBlockMapping fuel r' = .ok (more, r'')) :
    readBlockMapping (fuel + 1) ⟨l, handles, anchors⟩ = .ok ((key, value) :: more, r'') := by
  rw [readBlockMapping]
  simp only [bind_run, peek_run h, drop_run]
  rw [hkey _ fun _ _ => rfl]
  simp only
  rw [hvalue _ fun _ => rfl]
  simp only [hmore, pure_run]

theorem readBlockMapping_end (h : l.peek = .ok (⟨.blockEnd, start⟩, l')) :
    readBlockMapping (fuel + 1) ⟨l, handles, anchors⟩ = .ok ([], ⟨l'.drop, handles, anchors⟩) := by
  simp [readBlockMapping, peek_run h]

end Nodes

/-- A first document that is a block mapping, up to the end of the text. -/
theorem readDocument_blockMapping {node : Node}
    (h : l.peek = .ok (⟨.blockMappingStart, start⟩, l')) (h' : l'.peek = .ok (⟨.blockMappingStart, start⟩, l'))
    (hnode : readNode true false (stepsFor l'.cursor.rest.length) ⟨l', standardHandles, []⟩ =
      .ok (node, ⟨l'', standardHandles, []⟩))
    (hend : l''.peek = .ok (⟨.streamEnd, start'⟩, l'')) :
    readDocument true ⟨l, handles, []⟩ = .ok (some node, ⟨l'', standardHandles, []⟩) := by
  simp [readDocument, readBody, peek_run h, peek_run h', hnode, peek_run hend]

/-- At the end of the text there is no further document. -/
theorem readDocument_streamEnd (h : l.peek = .ok (⟨.streamEnd, start⟩, l)) :
    readDocument false ⟨l, handles, anchors⟩ = .ok (none, ⟨l, handles, anchors⟩) := by
  have hdrop (fuel : Nat) :
      dropDocumentEnds (fuel + 1) ⟨l, handles, anchors⟩ = .ok ((), ⟨l, handles, anchors⟩) := by
    simp [dropDocumentEnds, peek_run h]
  have hends : dropDocumentEnds (stepsFor l.cursor.rest.length) ⟨l, handles, anchors⟩ =
      .ok ((), ⟨l, handles, anchors⟩) := hdrop _
  simp [readDocument, peek_run h, hends]

end Tokens

end NodeReader

/-- A text of one document has its value. -/
theorem readDocuments_one {fuel left : Nat} {reader reader' reader'' : NodeReader} {node : Node}
    {v : Value} (hnode : NodeReader.readDocument true reader = .ok (some node, reader'))
    (hvalue : valueOf fuel node = .ok v)
    (hend : NodeReader.readDocument false reader' = .ok (none, reader'')) :
    readDocuments fuel (left + 2) true reader = .ok [v] := by
  simp [readDocuments, StateT.run, hnode, hvalue, hend, bind, Except.bind, pure, Except.pure]

end Sidecar.Yaml
