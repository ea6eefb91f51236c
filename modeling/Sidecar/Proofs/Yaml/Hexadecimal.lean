import Mathlib.Algebra.Group.Nat.Defs
import Mathlib.Tactic.Common
import Sidecar.Proofs.Yaml.Reading

/-!
Integers in base sixteen are read however long they are: the limit on digits is one of decimals.
-/

namespace Sidecar.Yaml

namespace Numeral

def IsHex (c : Char) : Prop := (digitValue? 16 c).isSome = true

instance (c : Char) : Decidable (IsHex c) := inferInstanceAs (Decidable (_ = _))

theorem IsHex.toNat_lt {c : Char} (hc : IsHex c) : c.toNat < 128 := by
  rcases Nat.lt_or_ge c.toNat 128 with hlt | hge
  · exact hlt
  · have h57 : ¬ c.toNat ≤ 57 := by omega
    have h122 : ¬ c.toNat ≤ 122 := by omega
    have h90 : ¬ c.toNat ≤ 90 := by omega
    simp [IsHex, digitValue?, h57, h122, h90] at hc

/-- What holds of the hexadecimal digits is checked for each of them. -/
theorem IsHex.elim {c : Char} (hc : IsHex c) (P : Char → Prop)
    (h : ∀ n < 128, IsHex (Char.ofNat n) → P (Char.ofNat n)) : P c := by
  have hP := h c.toNat hc.toNat_lt
  rw [Char.ofNat_toNat] at hP
  exact hP hc

theorem isPlain_of_isHex {c : Char} (hc : IsHex c) : IsPlain c := hc.elim IsPlain (by decide)

theorem isAllowed_of_isHex {c : Char} (hc : IsHex c) : isAllowed c = true :=
  hc.elim (isAllowed · = true) (by decide)

theorem foldDigit_of_isHex {c : Char} (hc : IsHex c) : Text.foldDigit c = c :=
  hc.elim (fun c => Text.foldDigit c = c) (by decide)

theorem ne_of_isHex {c d : Char} (hc : IsHex c) (hd : ¬ IsHex d) : c ≠ d := by
  rintro rfl
  exact hd hc

variable {ds : List Char} {n : Nat}

theorem isHex_of_foldlM {m : Nat}
    (h : ds.foldlM (fun n c => (digitValue? 16 c).map (n * 16 + ·)) m = some n) : ∀ c ∈ ds, IsHex c := by
  induction ds generalizing m with
  | nil => simp
  | cons d ds ih =>
    rw [List.foldlM_cons] at h
    obtain ⟨m', hm', hds⟩ := Option.bind_eq_some_iff.mp h
    obtain ⟨v, hv, -⟩ := Option.map_eq_some_iff.mp hm'
    intro c hc
    rcases List.mem_cons.mp hc with rfl | hc
    · simp [IsHex, hv]
    · exact ih hds c hc

theorem isHex_of_natOf (h : natOf 16 ds = some n) : ∀ c ∈ ds, IsHex c := isHex_of_foldlM h

theorem dropBase_of_isHex (h : ∀ c ∈ ds, IsHex c) : dropBase 16 ds = ds := by
  unfold dropBase
  split
  · next letter rest =>
    have hletter : IsHex letter := h letter (by simp)
    have hx : letter ≠ 'x' := ne_of_isHex hletter (by decide)
    have hX : letter ≠ 'X' := ne_of_isHex hletter (by decide)
    simp [baseLetter?, hx, hX]
  · rfl

theorem splitSign_of_isHex (h : ∀ c ∈ ds, IsHex c) : splitSign ds = (false, ds) := by
  unfold splitSign
  split
  · exact absurd rfl (ne_of_isHex (d := '-') (h '-' (by simp)) (by decide))
  · exact absurd rfl (ne_of_isHex (d := '+') (h '+' (by simp)) (by decide))
  · rfl

theorem trim_of_isHex (h : ∀ c ∈ ds, IsHex c) : Text.trim (· == ' ') ds = ds := by
  have hdrop {cs : List Char} (h : ∀ c ∈ cs, IsHex c) : cs.dropWhile (· == ' ') = cs := by
    cases cs with
    | nil => rfl
    | cons c cs =>
      have hc : c ≠ ' ' := ne_of_isHex (h c List.mem_cons_self) (by decide)
      simp [hc]
  have hreverse : ∀ c ∈ ds.reverse, IsHex c := fun c hc => h c (List.mem_reverse.mp hc)
  rw [Text.trim, hdrop h, hdrop hreverse, List.reverse_reverse]

theorem integer_hexadecimal (hne : ds ≠ []) (h : natOf 16 ds = some n) : integer 16 ds = .ok n := by
  have hhex := isHex_of_natOf h
  have hfold : ds.map Text.foldDigit = ds := by
    rw [List.map_congr_left fun c hc => foldDigit_of_isHex (hhex c hc), List.map_id']
  simp [integer, hfold, trim_of_isHex hhex, splitSign_of_isHex hhex, dropBase_of_isHex hhex, hne, h]

/-- A hexadecimal number has its value, whatever the number of its digits. -/
theorem readInteger_hexadecimal (hne : ds ≠ []) (h : natOf 16 ds = some n) :
    readInteger (String.ofList ('0' :: 'x' :: ds)) = .ok n := by
  have hfilter : ('0' :: 'x' :: ds).filter (· ≠ '_') = '0' :: 'x' :: ds := by
    rw [List.filter_eq_self]
    intro c hc
    rcases List.mem_cons.mp hc with rfl | hc
    · rfl
    · rcases List.mem_cons.mp hc with rfl | hc
      · rfl
      · exact decide_eq_true (ne_of_isHex (isHex_of_natOf h c hc) (by decide))
  rw [readInteger, signed, String.toList_ofList, hfilter]
  simp [splitSign, integer_hexadecimal hne h, bind, Except.bind, pure, Except.pure]

theorem natOf_zeros (count : Nat) : natOf 16 ('1' :: List.replicate count '0') = some (16 ^ count) := by
  have hzeros (m : Nat) : (List.replicate count '0').foldlM
      (fun n c => (digitValue? 16 c).map (n * 16 + ·)) m = some (m * 16 ^ count) := by
    induction count generalizing m with
    | zero => simp
    | succ count ih =>
      have hzero : digitValue? 16 '0' = some 0 := by decide
      rw [List.replicate_succ, List.foldlM_cons, hzero]
      simp [ih, Nat.pow_succ, Nat.mul_assoc, Nat.mul_comm 16]
  have hone : digitValue? 16 '1' = some 1 := by decide
  simp [natOf, hone, hzeros]

end Numeral

namespace Lexer

/-- A lexer in the line of the first entry of a text, after its key. -/
def inEntry (rest : List Char) (column : Nat) (queue : List Token) (taken : Nat) : Lexer :=
  { cursor := ⟨rest, ⟨column, 0, column⟩⟩, queue, taken, indent := 0, indents := [-1], keyAllowed := false }

/-- A lexer at the end of a text of one line. -/
def atEnd (column : Nat) (queue : List Token) (taken : Nat) : Lexer :=
  { cursor := ⟨[], ⟨column, 0, column⟩⟩, queue, taken, keyAllowed := false, finished := true }

def startToken : Token := ⟨.blockMappingStart, ⟨0, 0, 0⟩⟩

def keyToken : Token := ⟨.key, ⟨0, 0, 0⟩⟩

def nameToken : Token := ⟨.scalar "a" true, ⟨0, 0, 0⟩⟩

def valueToken : Token := ⟨.value, ⟨1, 0, 1⟩⟩

def tagToken : Token := ⟨.tag ⟨some "!!", "int"⟩, ⟨3, 0, 3⟩⟩

section

variable (rest : List Char) (column : Nat) (t : Token) (queue : List Token) (taken : Nat)

theorem peek_inEntry :
    (inEntry rest column (t :: queue) taken).peek = .ok (t, inEntry rest column (t :: queue) taken) := rfl

theorem drop_inEntry :
    (inEntry rest column (t :: queue) taken).drop = inEntry rest column queue (taken + 1) := rfl

theorem dropStale_inEntry :
    (inEntry rest column queue taken).dropStale = .ok (inEntry rest column queue taken) := rfl

theorem unwind_inEntry (target : Nat) :
    (inEntry rest column queue taken).unwind target = inEntry rest column queue taken := by
  have htarget : ¬ (target : Int) < 0 := Int.not_lt.mpr (Int.natCast_nonneg target)
  simp [unwind, unwindFrom, inEntry, inFlow, htarget]

theorem skipToToken_inEntry (fuel : Nat) {c : Char} (hc : IsPlain c) :
    skipToToken (fuel + 1) (inEntry (' ' :: c :: rest) column queue taken) =
      inEntry (c :: rest) (column + 1) queue taken := by
  obtain ⟨hblank, -, hhash, -⟩ := hc
  simp only [isBlankOrEnd, isSpaceOrEnd, isNewlineOrEnd, Bool.or_eq_false_iff,
    beq_eq_false_iff_ne] at hblank
  have hcursor : Cursor.skipSpaces ⟨' ' :: c :: rest, ⟨column, 0, column⟩⟩ =
      ⟨c :: rest, ⟨column + 1, 0, column + 1⟩⟩ := by
    simp [Cursor.skipSpaces, Cursor.dropWhile, Cursor.span, Cursor.spanFrom, hblank, Mark.after,
      byteOrderMark]
  simp [skipToToken, inEntry, hcursor, hblank, Cursor.char, hhash]

end

/-- A lexer after a name where a key may start. -/
def afterName (rest : List Char) : Lexer :=
  { cursor := ⟨rest, ⟨1, 0, 1⟩⟩, queue := [nameToken], keyAllowed := false,
    candidates := [(0, ⟨0, false, ⟨0, 0, 0⟩⟩)] }

theorem readToken_name (rest : List Char) :
    (ofText ('a' :: ':' :: ' ' :: rest)).readToken = .ok (afterName (':' :: ' ' :: rest)) := rfl

theorem readToken_colon (rest : List Char) : (afterName (':' :: ' ' :: rest)).readToken =
    .ok (inEntry (' ' :: rest) 2 [startToken, keyToken, nameToken, valueToken] 0) := rfl

/-- The name is handed out only once the colon has made it a key. -/
theorem peek_start (rest : List Char) : (ofText ('a' :: ':' :: ' ' :: rest)).peek =
    .ok (startToken, inEntry (' ' :: rest) 2 [startToken, keyToken, nameToken, valueToken] 0) := by
  have hfill (fuel : Nat) : fill (fuel + 3) (ofText ('a' :: ':' :: ' ' :: rest)) =
      .ok (inEntry (' ' :: rest) 2 [startToken, keyToken, nameToken, valueToken] 0) := by
    rw [fill_of_readToken rfl (.inl rfl) (readToken_name rest),
      fill_of_readToken rfl (.inr rfl) (readToken_colon rest), fill_of_isReady rfl rfl]
  have hfinished : (ofText ('a' :: ':' :: ' ' :: rest)).finished = false := rfl
  rw [peek, hfinished, hfill]
  rfl

theorem readTag_int (rest : List Char) (m : Mark) :
    readTag ⟨'!' :: '!' :: 'i' :: 'n' :: 't' :: ' ' :: rest, m⟩ =
      .ok (⟨some "!!", "int"⟩, ⟨' ' :: rest, ⟨m.index + 5, m.line, m.column + 5⟩⟩) := by
  have huri (m : Mark) : readUri ⟨'i' :: 'n' :: 't' :: ' ' :: rest, m⟩ =
      .ok ("int", ⟨' ' :: rest, ⟨m.index + 3, m.line, m.column + 3⟩⟩) := by
    have hmark : (⟨m.index + 3, m.line, m.column + 3⟩ : Mark) ≠ m := fun h => by
      have hindex := congrArg Mark.index h
      simp at hindex
    simp [readUri, readUriChars, Cursor.span, Cursor.spanFrom, isUriChar, Cursor.char, Mark.after,
      byteOrderMark, hmark, bind, Except.bind, pure, Except.pure]
  simp [readTag, readHandle, huri, Cursor.span, Cursor.spanFrom, Cursor.peek, Cursor.next, Cursor.char,
    isSpaceOrEnd, isNewlineOrEnd, isNewline, isBlankOrEnd, endOfText, isWordChar, Mark.after,
    byteOrderMark, bind, Except.bind, pure, Except.pure]

/-- What follows the colon after the key: an integer, with its tag. -/
def tagged (rest : List Char) : List Char := ' ' :: '!' :: '!' :: 'i' :: 'n' :: 't' :: ' ' :: rest

/-- The tag of the value. -/
theorem peek_tag (rest : List Char) (taken : Nat) : (inEntry (tagged rest) 2 [] taken).peek =
    .ok (tagToken, inEntry (' ' :: rest) 8 [tagToken] taken) := by
  have hstart : IsPlain '!' := by decide
  refine peek_of_readToken ?_ rfl rfl rfl rfl
  rw [tagged, readToken, skipToToken_inEntry _ _ _ _ _ hstart, dropStale_inEntry]
  simp only [bind, Except.bind, unwind_inEntry]
  simp [inEntry, tagToken, Cursor.char, Cursor.peek, endOfText, mark, readContent, noteCandidate,
    readTag_int, push, bind, Except.bind, pure, Except.pure]

/-- The value, which goes on to the end of the text. -/
theorem peek_word {c : Char} {w : List Char} (hw : ∀ d ∈ c :: w, IsPlain d) (hc : c.isDigit = true)
    (column taken : Nat) :
    let token : Token := ⟨.scalar (String.ofList (c :: w)) true, ⟨column + 1, 0, column + 1⟩⟩
    (inEntry (' ' :: c :: w) column [] taken).peek =
      .ok (token, inEntry [] (column + 1 + (c :: w).length) [token] taken) := by
  intro token
  have hplain : IsPlain c := hw c List.mem_cons_self
  have hne (d : Char) (hd : d.isDigit = false) : c ≠ d := by
    rintro rfl
    rw [hd] at hc
    nomatch hc
  have hread := readPlain_word hw 1 ⟨column + 1, 0, column + 1⟩ (List.cons_ne_nil c w)
  refine peek_of_readToken ?_ rfl rfl rfl rfl
  rw [readToken, skipToToken_inEntry _ _ _ _ _ hplain, dropStale_inEntry]
  simp only [bind, Except.bind, unwind_inEntry]
  simp [inEntry, token, Cursor.char, Cursor.peek, endOfText, mark, readPlainScalar, noteCandidate, push,
    inFlow, hne, hread, atPlain, hplain.1, bind, Except.bind, pure, Except.pure]

theorem peek_end (column taken : Nat) : (inEntry [] column [] taken).peek =
    .ok (⟨.blockEnd, ⟨column, 0, column⟩⟩,
      atEnd column [⟨.blockEnd, ⟨column, 0, column⟩⟩, ⟨.streamEnd, ⟨column, 0, column⟩⟩] taken) := by
  have hskip (fuel : Nat) :
      skipToToken (fuel + 1) (inEntry [] column [] taken) = inEntry [] column [] taken := rfl
  refine peek_of_readToken ?_ rfl rfl rfl rfl
  rw [readToken, hskip, dropStale_inEntry]
  simp only [bind, Except.bind, unwind_inEntry]
  rfl

end Lexer

namespace NodeReader

open Lexer

section

variable {c : Char} {w : List Char} (hw : ∀ d ∈ c :: w, IsPlain d) (hc : c.isDigit = true)

theorem readEntry_name {ends : TokenKind → Bool} (rest : List Char) (indicator : Token) (fuel : Nat)
    (hends : ends nameToken.kind = false) :
    readEntry ends true true indicator (fuel + 2)
        ⟨inEntry rest 2 [nameToken, valueToken] 2, standardHandles, []⟩ =
      .ok (.scalar .str "a" ⟨0, 0, 0⟩, ⟨inEntry rest 2 [valueToken] 3, standardHandles, []⟩) := by
  have hpeek := peek_inEntry rest 2 nameToken [valueToken] 2
  have htag : scalarTag none "a" true = .str := by decide
  rw [readEntry_node _ _ _ _ hpeek hends, readNode_scalar _ _ _ hpeek, htag]
  rfl

include hw hc in
theorem readMappingValue_tagged {ends : TokenKind → Bool} (fuel : Nat)
    (hends : ends tagToken.kind = false) :
    readMappingValue ends true true (fuel + 3)
        ⟨inEntry (tagged (c :: w)) 2 [valueToken] 3, standardHandles, []⟩ =
      .ok (.scalar .int (String.ofList (c :: w)) ⟨3, 0, 3⟩,
        ⟨inEntry [] (9 + (c :: w).length) [] 6, standardHandles, []⟩) := by
  have hvalue := peek_inEntry (tagged (c :: w)) 2 valueToken [] 3
  have hhandle : standardHandles.lookup "!!" = some Tag.base := rfl
  have htag : scalarTag (some (Tag.base ++ "int")) (String.ofList (c :: w)) true = .int := by
    have hname : Tag.ofName (Tag.base ++ "int") = .int := by decide
    exact hname
  have htext := peek_word hw hc 8 5
  rw [readMappingValue_value _ _ _ _ hvalue, drop_inEntry,
    readEntry_node _ _ _ _ (peek_tag _ _) hends,
    readNode_tagged _ _ _ (peek_inEntry _ _ tagToken _ _) htext (peek_inEntry _ _ _ _ _) hhandle, htag]
  rfl

include hw hc in
/-- A text of one entry with an integer is read as a mapping with that entry. -/
theorem readDocument_tagged :
    let stop : Mark := ⟨9 + (c :: w).length, 0, 9 + (c :: w).length⟩
    let entry : Node × Node := (.scalar .str "a" ⟨0, 0, 0⟩, .scalar .int (String.ofList (c :: w)) ⟨3, 0, 3⟩)
    readDocument true ⟨Lexer.ofText ('a' :: ':' :: tagged (c :: w)), [], []⟩ =
      .ok (some (.mapping .map [entry] ⟨0, 0, 0⟩),
        ⟨atEnd stop.column [⟨.streamEnd, stop⟩] 7, standardHandles, []⟩) := by
  intro stop entry
  have hentries (fuel : Nat) : readBlockMapping (fuel + 4)
        ⟨inEntry (tagged (c :: w)) 2 [keyToken, nameToken, valueToken] 1, standardHandles, []⟩ =
      .ok ([entry], ⟨atEnd stop.column [⟨.streamEnd, stop⟩] 7, standardHandles, []⟩) := by
    apply readBlockMapping_key (fuel + 3) (peek_inEntry _ _ keyToken _ _)
    case hkey =>
      intro ends hends
      exact readEntry_name _ _ (fuel + 1) (hends "a" true)
    case hvalue =>
      intro ends hends
      exact readMappingValue_tagged hw hc fuel (hends _)
    case hmore => exact readBlockMapping_end (fuel + 2) (peek_end stop.column 6)
  refine readDocument_blockMapping (peek_start _) (peek_inEntry _ _ startToken _ _) ?_ rfl
  exact readNode_blockMapping _ _ (peek_inEntry _ _ startToken _ _) (hentries _)

end

end NodeReader

theorem valueOf_entry {text : String} {n : Int} (h : Numeral.readInteger text = .ok n) (fuel : Nat)
    (key start : Mark) :
    valueOf (fuel + 2) (.mapping .map [(.scalar .str "a" key, .scalar .int text start)] key) =
      .ok (.map [(.str "a", .int n)]) := by
  have hkey : build (fuel + 1) 1 (.scalar .str "a" key) = ⟨.str "a", none⟩ := rfl
  have hvalue : build (fuel + 1) 1 (.scalar .int text start) = ⟨.int n, none⟩ := by
    simp [build, Node.tag, Node.text?, h, Built.ofExcept, bind, Except.bind, pure, Except.pure]
  have hflat : flattenEntries [(.scalar .str "a" key, .scalar .int text start)] =
      .ok ⟨[], [(.scalar .str "a" key, .scalar .int text start)]⟩ := by
    simp [flattenEntries, Node.tag, bind, Except.bind, pure, Except.pure]
  have hentries : buildMapping 1 (build (fuel + 1) 1)
      (.mapping .map [(.scalar .str "a" key, .scalar .int text start)] key) = ⟨[(.str "a", .int n)], none⟩ := by
    simp [buildMapping, hflat, buildEntries, hkey, hvalue, Built.map₂, Built.earlier, isKey]
  have hbuild : build (fuel + 2) 0 (.mapping .map [(.scalar .str "a" key, .scalar .int text start)] key) =
      ⟨.map [(.str "a", .int n)], none⟩ := by
    rw [build]
    simp only [Node.tag, hentries, Built.map]
    rfl
  simp [valueOf, hbuild]

/-- The integer of an entry is read with all its digits. -/
theorem documents_hexadecimal {ds : List Char} {n : Nat} (hne : ds ≠ [])
    (h : Numeral.natOf 16 ds = some n) :
    documents ("a: !!int 0x".toList ++ ds) = .ok [.map [(.str "a", .int n)]] := by
  have hhex := Numeral.isHex_of_natOf h
  have hplain : ∀ c ∈ '0' :: 'x' :: ds, IsPlain c := by
    intro c hc
    rcases List.mem_cons.mp hc with rfl | hc
    · decide
    · rcases List.mem_cons.mp hc with rfl | hc
      · decide
      · exact Numeral.isPlain_of_isHex (hhex c hc)
  have hallowed : ("a: !!int 0x".toList ++ ds).all isAllowed = true := by
    rw [List.all_append, Bool.and_eq_true]
    exact ⟨by decide, List.all_eq_true.mpr fun c hc => Numeral.isAllowed_of_isHex (hhex c hc)⟩
  have htext : "a: !!int 0x".toList ++ ds = 'a' :: ':' :: Lexer.tagged ('0' :: 'x' :: ds) := rfl
  rw [documents, if_pos hallowed, htext]
  exact readDocuments_one (NodeReader.readDocument_tagged hplain rfl)
    (valueOf_entry (Numeral.readInteger_hexadecimal hne h) _ _ _) (NodeReader.readDocument_streamEnd rfl)

end Sidecar.Yaml
