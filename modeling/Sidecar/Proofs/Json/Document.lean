import Sidecar.Proofs.Json.Number
import Sidecar.Proofs.Json.Quoted
import Sidecar.Proofs.Value.Object

/-!
What is printed is read back: the text of a JSON value holds that value. Only integers with too many
digits have no text.
-/

namespace Sidecar.Json

variable {limits : Limits} {fuel : Nat} {v : Value} {cs rest more : List Char}

/-- Limits within which everything is that can be printed. -/
structure Limits.Ample (limits : Limits) : Prop where
  digits : ∀ count ∈ limits.digits, Literal.digitLimit ≤ count
  depth : limits.depth = none

theorem Limits.Ample.enter (h : limits.Ample) : limits.enter = .ok limits := by
  rw [Limits.enter, h.depth]

/-- A text that starts neither with a blank nor with a closing bracket, as every value does. -/
def StartsValue (cs : List Char) : Prop :=
  ∃ c more, cs = c :: more ∧ c ∉ [' ', '\t', '\n', '\r', ']']

theorem StartsValue.skipBlanks_eq (h : StartsValue cs) : skipBlanks cs = cs := by
  obtain ⟨c, more, rfl, hc⟩ := h
  simp only [List.mem_cons, List.not_mem_nil, or_false, not_or] at hc
  simp [skipBlanks, hc]

theorem startsValue_of_readValue {r : Value × List Char} (h : readValue limits fuel cs = .ok r) :
    StartsValue cs := by
  cases fuel with
  | zero => simp [readValue] at h
  | succ fuel =>
    cases cs with
    | nil =>
      have hempty : readValue limits (fuel + 1) [] = .error .malformed := rfl
      simp [hempty] at h
    | cons c more =>
      refine ⟨c, more, rfl, ?_⟩
      intro hc
      simp only [List.mem_cons, List.not_mem_nil, or_false] at hc
      rcases hc with rfl | rfl | rfl | rfl | rfl <;>
        simp [readValue, words, dropWord?, readNumber, isDigit] at h

theorem readItems_last (h : readValue limits fuel cs = .ok (v, ']' :: rest)) :
    readItems limits (fuel + 1) cs = .ok ([v], rest) := by
  simp [readItems, h, skipBlanks, bind, Except.bind, pure, Except.pure]

theorem startsValue_of_readItems {r : List Value × List Char} (h : readItems limits fuel cs = .ok r) :
    StartsValue cs := by
  cases fuel with
  | zero => simp [readItems] at h
  | succ fuel =>
    cases hvalue : readValue limits fuel cs with
    | error e => simp [readItems, hvalue, bind, Except.bind] at h
    | ok r => exact startsValue_of_readValue hvalue

theorem skipBlanks_blank (cs : List Char) : skipBlanks (' ' :: cs) = skipBlanks cs := rfl

theorem readItems_next {items : List Value} (h : readValue limits fuel cs = .ok (v, ',' :: ' ' :: more))
    (hmore : readItems limits fuel more = .ok (items, rest)) :
    readItems limits (fuel + 1) cs = .ok (v :: items, rest) := by
  have hcomma : skipBlanks (',' :: ' ' :: more) = ',' :: ' ' :: more := rfl
  have hblank := (startsValue_of_readItems hmore).skipBlanks_eq
  simp [readItems, h, hcomma, skipBlanks_blank, hblank, hmore, bind, Except.bind, pure, Except.pure]

theorem readValue_nil (henter : limits.enter = .ok limits) (fuel : Nat) (rest : List Char) :
    readValue limits (fuel + 1) ('[' :: ']' :: rest) = .ok (.list [], rest) := by
  simp [readValue, henter, skipBlanks, bind, Except.bind, pure, Except.pure]

theorem readValue_list {items : List Value} (henter : limits.enter = .ok limits)
    (h : readItems limits fuel cs = .ok (items, rest)) :
    readValue limits (fuel + 1) ('[' :: cs) = .ok (.list items, rest) := by
  have hstart := startsValue_of_readItems h
  have hblank := hstart.skipBlanks_eq
  obtain ⟨c, more, rfl, hc⟩ := hstart
  simp only [List.mem_cons, List.not_mem_nil, or_false, not_or] at hc
  simp [readValue, henter, hblank, h, hc, bind, Except.bind, pure, Except.pure]

theorem readEntries_last {key : String} {body : List Char}
    (hkey : readString (body.length + 1) [] body = .ok (key, ':' :: ' ' :: more))
    (h : readValue limits fuel more = .ok (v, '}' :: rest)) :
    readEntries limits (fuel + 1) ('"' :: body) = .ok ([(.str key, v)], rest) := by
  have hcolon : skipBlanks (':' :: ' ' :: more) = ':' :: ' ' :: more := rfl
  have hbrace : skipBlanks ('}' :: rest) = '}' :: rest := rfl
  have hblank := (startsValue_of_readValue h).skipBlanks_eq
  simp [readEntries, hkey, hcolon, skipBlanks_blank, hblank, h, hbrace, bind, Except.bind, pure,
    Except.pure]

theorem head_of_readEntries {r : List (Value × Value) × List Char}
    (h : readEntries limits fuel cs = .ok r) : ∃ body, cs = '"' :: body := by
  cases fuel with
  | zero => simp [readEntries] at h
  | succ fuel =>
    unfold readEntries at h
    split at h
    · exact ⟨_, rfl⟩
    · simp at h

theorem readEntries_next {key : String} {body value : List Char} {entries : List (Value × Value)}
    (hkey : readString (body.length + 1) [] body = .ok (key, ':' :: ' ' :: value))
    (h : readValue limits fuel value = .ok (v, ',' :: ' ' :: more))
    (hmore : readEntries limits fuel more = .ok (entries, rest)) :
    readEntries limits (fuel + 1) ('"' :: body) = .ok ((.str key, v) :: entries, rest) := by
  have hcolon : skipBlanks (':' :: ' ' :: value) = ':' :: ' ' :: value := rfl
  have hcomma : skipBlanks (',' :: ' ' :: more) = ',' :: ' ' :: more := rfl
  have hblank := (startsValue_of_readValue h).skipBlanks_eq
  have hquote : skipBlanks more = more := by
    obtain ⟨body, rfl⟩ := head_of_readEntries hmore
    rfl
  simp [readEntries, hkey, hcolon, hcomma, skipBlanks_blank, hblank, h, hquote, hmore, bind, Except.bind,
    pure, Except.pure]

theorem readValue_empty (henter : limits.enter = .ok limits) (fuel : Nat) (rest : List Char) :
    readValue limits (fuel + 1) ('{' :: '}' :: rest) = .ok (.map [], rest) := by
  simp [readValue, henter, skipBlanks, bind, Except.bind, pure, Except.pure]

theorem readValue_map {entries : List (Value × Value)} (henter : limits.enter = .ok limits)
    (h : readEntries limits fuel cs = .ok (entries, rest)) :
    readValue limits (fuel + 1) ('{' :: cs) = .ok (Value.mapOfList entries, rest) := by
  obtain ⟨body, rfl⟩ := head_of_readEntries h
  have hblank : skipBlanks ('"' :: body) = '"' :: body := rfl
  simp [readValue, henter, hblank, h, bind, Except.bind, pure, Except.pure]

theorem readValue_str (s : String) (fuel : Nat) (rest : List Char) :
    readValue limits (fuel + 1) ((quoted s).toList ++ rest) = .ok (.str s, rest) := by
  obtain ⟨body, hbody, hread⟩ := readString_quoted s rest
  simp [hbody, readValue, hread, bind, Except.bind, pure, Except.pure]

theorem head_of_readNumber {negative : Bool} {r : Value × List Char}
    (h : readNumber limits.digits negative cs = .ok r) : ∃ c more, cs = c :: more ∧ isDigit c = true := by
  cases cs with
  | nil =>
    have hempty : readNumber limits.digits negative [] = .error .malformed := rfl
    simp [hempty] at h
  | cons c more =>
    refine ⟨c, more, rfl, ?_⟩
    by_contra hc
    have hzero : c ≠ '0' := by
      rintro rfl
      exact hc (by decide)
    simp [readNumber, hzero, hc] at h

/-- A text that starts with a digit, perhaps after a sign, is read as a number. -/
theorem readValue_number {r : Value × List Char} (fuel : Nat) (negative : Bool)
    (h : readNumber limits.digits negative cs = .ok r) :
    readValue limits (fuel + 1) ((if negative then ['-'] else []) ++ cs) = .ok r := by
  obtain ⟨c, more, rfl, hc⟩ := head_of_readNumber h
  have hne {d : Char} (hd : isDigit d = false) : c ≠ d := by
    rintro rfl
    rw [hc] at hd
    exact Bool.noConfusion hd
  have hquote : c ≠ '"' := hne (by decide)
  have hbracket : c ≠ '[' := hne (by decide)
  have hbrace : c ≠ '{' := hne (by decide)
  have hminus : c ≠ '-' := hne (by decide)
  have hn : 'n' ≠ c := (hne (by decide)).symm
  have ht : 't' ≠ c := (hne (by decide)).symm
  have hf : 'f' ≠ c := (hne (by decide)).symm
  have hN : 'N' ≠ c := (hne (by decide)).symm
  have hI : 'I' ≠ c := (hne (by decide)).symm
  cases negative with
  | false => simp [readValue, words, dropWord?, hminus.symm, *]
  | true => simp [readValue, words, dropWord?, *]

/-- The text of an integer: its sign, if it is negative, and its digits. -/
theorem toList_toString (n : Int) : (toString n).toList =
    (if n < 0 then ['-'] else []) ++ Nat.toDigits 10 n.natAbs := by
  cases n with
  | ofNat m =>
    have hsign : ¬ Int.ofNat m < 0 := Int.not_lt.mpr (Int.natCast_nonneg m)
    have htext : toString (Int.ofNat m) = m.repr := rfl
    rw [htext, Nat.toList_repr, if_neg hsign]
    rfl
  | negSucc m =>
    have hsign : Int.negSucc m < 0 := by omega
    have htext : toString (Int.negSucc m) = "-" ++ (m + 1).repr := rfl
    rw [htext, String.toList_append, Nat.toList_repr, if_pos hsign]
    rfl

/-- Integers with the same text are the same. -/
theorem toString_int_injective {m n : Int} (h : toString m = toString n) : m = n := by
  have hminus (k : Nat) : '-' ∉ Nat.toDigits 10 k := fun hk => absurd (isDigit_of_mem_toDigits hk) (by decide)
  have habs (h : Nat.toDigits 10 m.natAbs = Nat.toDigits 10 n.natAbs) : m.natAbs = n.natAbs := by
    rw [← natOfDigits_toDigits m.natAbs, h, natOfDigits_toDigits]
  have hchars := congrArg String.toList h
  rw [toList_toString, toList_toString] at hchars
  by_cases hm : m < 0 <;> by_cases hn : n < 0
  · rw [if_pos hm, if_pos hn] at hchars
    have := habs (List.append_cancel_left hchars)
    omega
  · rw [if_pos hm, if_neg hn, List.nil_append] at hchars
    exact absurd (by rw [← hchars]; exact List.mem_cons_self) (hminus n.natAbs)
  · rw [if_neg hm, if_pos hn, List.nil_append] at hchars
    exact absurd (by rw [hchars]; exact List.mem_cons_self) (hminus m.natAbs)
  · rw [if_neg hm, if_neg hn] at hchars
    have := habs hchars
    omega

theorem readValue_int {n : Int} (hlimits : limits.Ample)
    (hn : n.natAbs < Nat.pow 10 Literal.digitLimit) (hrest : EndsNumber rest) :
    readValue limits (fuel + 1) ((toString n).toList ++ rest) = .ok (.int n, rest) := by
  have hlength {k : Nat} (hk : 0 < k) (hn : n.natAbs < Nat.pow 10 k) :
      (Nat.toDigits 10 n.natAbs).length ≤ k :=
    (Nat.length_toDigits_le_iff (by decide) hk).mpr hn
  have hshort := hlength (by decide) hn
  have hfits : limits.digits.any (· < (Nat.toDigits 10 n.natAbs).length) = false := by
    cases hdigits : limits.digits with
    | none => rfl
    | some count =>
      have hcount := hlimits.digits count hdigits
      simp only [Option.any_some, decide_eq_false_iff_not]
      omega
  have hread := readNumber_toDigits (n < 0) hfits hrest
  have h := readValue_number fuel _ hread
  have hvalue : (if decide (n < 0) then -(n.natAbs : Int) else n.natAbs) = n := by
    simp only [decide_eq_true_eq]
    split_ifs <;> omega
  rw [hvalue] at h
  simp only [decide_eq_true_eq] at h
  rw [toList_toString, List.append_assoc]
  exact h

theorem readValue_float {x : Binary64} (hx : x.inRange = true) (hrest : EndsNumber rest) :
    readValue limits (fuel + 1) ((x.text numberStyle).toList ++ rest) = .ok (.float x, rest) := by
  cases x with
  | nan => rfl
  | infinite negative => cases negative <;> rfl
  | finite negative rank =>
    have hread := readNumber_text limits.digits negative numberStyle (by simpa [Binary64.inRange] using hx) hrest
    have h := readValue_number fuel negative hread
    have hsign : (if negative then "-" else "").toList = if negative then ['-'] else [] := by
      cases negative <;> rfl
    rw [Binary64.text, String.toList_append, hsign, List.append_assoc]
    exact h

theorem integer_eq_ok_iff {n : Int} {text : String} : integer n = .ok text ↔
    n.natAbs < Nat.pow 10 Literal.digitLimit ∧ toString n = text := by
  unfold integer Literal.integer?
  generalize Nat.pow 10 Literal.digitLimit = bound
  by_cases h : n.natAbs < bound <;> simp [h]

theorem printItems_cons_eq_ok_iff {items : List Value} {parts : List String} :
    printItems (v :: items) = .ok parts ↔
      ∃ text texts, print v = .ok text ∧ printItems items = .ok texts ∧ text :: texts = parts := by
  cases hv : print v <;> cases hitems : printItems items <;>
    simp [printItems, hv, hitems, bind, Except.bind, pure, Except.pure]

theorem printEntries_cons_eq_ok_iff {k : String} {entries : List (Value × Value)} {parts : List String} :
    printEntries ((.str k, v) :: entries) = .ok parts ↔
      ∃ text texts, print v = .ok text ∧ printEntries entries = .ok texts ∧
        (quoted k ++ ": " ++ text) :: texts = parts := by
  cases hv : print v <;> cases hentries : printEntries entries <;>
    simp [printEntries, key, hv, hentries, bind, Except.bind, pure, Except.pure]

theorem print_list_eq_ok_iff {items : List Value} {text : String} : print (.list items) = .ok text ↔
    ∃ parts, printItems items = .ok parts ∧ "[" ++ ", ".intercalate parts ++ "]" = text := by
  cases h : printItems items <;> simp [print, h, bind, Except.bind, pure, Except.pure]

theorem print_map_eq_ok_iff {entries : List (Value × Value)} {text : String} :
    print (.map entries) = .ok text ↔
      ∃ parts, printEntries entries = .ok parts ∧ "\x7b" ++ ", ".intercalate parts ++ "\x7d" = text := by
  cases h : printEntries entries <;> simp [print, h, bind, Except.bind, pure, Except.pure]

/-- The texts of several parts, with commas between them. -/
def joined (parts : List String) : List Char := (", ".intercalate parts).toList

@[simp] theorem joined_singleton (part : String) : joined [part] = part.toList := by
  rw [joined, String.intercalate_singleton]

@[simp] theorem joined_cons_cons (part next : String) (parts : List String) :
    joined (part :: next :: parts) = part.toList ++ ',' :: ' ' :: joined (next :: parts) := by
  rw [joined, String.intercalate_cons_cons, String.toList_append, String.toList_append,
    List.append_assoc]
  rfl

theorem endsNumber_cons {c : Char} (h : isDigit c = false ∧ c ≠ '.' ∧ c ≠ 'e' ∧ c ≠ 'E') :
    EndsNumber (c :: rest) := by
  intro d hd
  obtain rfl : c = d := by simpa using hd
  exact h

mutual

theorem readValue_print (hlimits : limits.Ample) (v : Value)
    (hv : v.isJson = true) {text : String} (h : print v = .ok text) {fuel : Nat} {rest : List Char}
    (hfuel : text.toList.length < fuel) (hrest : EndsNumber rest) :
    readValue limits fuel (text.toList ++ rest) = .ok (v, rest) := by
  obtain ⟨fuel, rfl⟩ := Nat.exists_eq_succ_of_ne_zero (Nat.ne_zero_of_lt hfuel)
  cases v with
  | null =>
    obtain rfl := Except.ok.inj h
    rfl
  | bool b =>
    obtain rfl := Except.ok.inj h
    cases b <;> rfl
  | int n =>
    rw [print] at h
    obtain ⟨hn, rfl⟩ := integer_eq_ok_iff.mp h
    exact readValue_int hlimits hn hrest
  | float x =>
    obtain rfl := Except.ok.inj h
    exact readValue_float hv hrest
  | str s =>
    obtain rfl := Except.ok.inj h
    exact readValue_str s fuel rest
  | list items =>
    obtain ⟨parts, hparts, rfl⟩ := print_list_eq_ok_iff.mp h
    have htext : ("[" ++ ", ".intercalate parts ++ "]").toList ++ rest =
        '[' :: (joined parts ++ ']' :: rest) := by
      simp [joined]
    have hlength : ("[" ++ ", ".intercalate parts ++ "]").toList.length = (joined parts).length + 2 := by
      simp [joined]
    rw [htext]
    cases items with
    | nil =>
      obtain rfl := Except.ok.inj hparts
      exact readValue_nil hlimits.enter fuel rest
    | cons v items =>
      exact readValue_list hlimits.enter
        (readItems_print hlimits (v :: items) (List.cons_ne_nil _ _) hv hparts (by omega))
  | map entries =>
    obtain ⟨parts, hparts, rfl⟩ := print_map_eq_ok_iff.mp h
    have htext : ("\x7b" ++ ", ".intercalate parts ++ "\x7d").toList ++ rest =
        '{' :: (joined parts ++ '}' :: rest) := by
      simp [joined]
    have hlength : ("\x7b" ++ ", ".intercalate parts ++ "\x7d").toList.length =
        (joined parts).length + 2 := by
      simp [joined]
    rw [htext]
    cases entries with
    | nil =>
      obtain rfl := Except.ok.inj hparts
      exact readValue_empty hlimits.enter fuel rest
    | cons e entries =>
      have hentries : readEntries limits fuel (joined parts ++ '}' :: rest) = .ok (e :: entries, rest) :=
        readEntries_print hlimits (e :: entries) (List.cons_ne_nil _ _) hv hparts (by omega)
      have hread := readValue_map hlimits.enter hentries
      obtain ⟨o, ho, hjson⟩ := Value.exists_object_of_isJson hv
      rwa [ho, Value.mapOfList_entries hjson.nodup, Value.object_eq, ← ho] at hread
  | bytes | date | timestamp | tuple | set => simp [Value.isJson] at hv

theorem readItems_print (hlimits : limits.Ample) (items : List Value)
    (hne : items ≠ []) (hitems : Value.allJson items = true) {parts : List String}
    (h : printItems items = .ok parts) {fuel : Nat} {rest : List Char}
    (hfuel : (joined parts).length + 1 < fuel) :
    readItems limits fuel (joined parts ++ ']' :: rest) = .ok (items, rest) := by
  obtain ⟨fuel, rfl⟩ := Nat.exists_eq_succ_of_ne_zero (Nat.ne_zero_of_lt hfuel)
  cases items with
  | nil => exact absurd rfl hne
  | cons v items =>
    rw [Value.allJson, Bool.and_eq_true] at hitems
    obtain ⟨hv, hitems⟩ := hitems
    obtain ⟨text, texts, htext, htexts, rfl⟩ := printItems_cons_eq_ok_iff.mp h
    cases items with
    | nil =>
      obtain rfl := Except.ok.inj htexts
      rw [joined_singleton] at hfuel ⊢
      exact readItems_last (readValue_print hlimits v hv htext (by omega) (endsNumber_cons (by decide)))
    | cons w items =>
      obtain ⟨next, others, -, -, rfl⟩ := printItems_cons_eq_ok_iff.mp htexts
      rw [joined_cons_cons, List.length_append, List.length_cons, List.length_cons] at hfuel
      rw [joined_cons_cons, List.append_assoc]
      exact readItems_next (readValue_print hlimits v hv htext (by omega) (endsNumber_cons (by decide)))
        (readItems_print hlimits (w :: items) (List.cons_ne_nil _ _) hitems htexts (by omega))

theorem readEntries_print (hlimits : limits.Ample)
    (entries : List (Value × Value)) (hne : entries ≠ []) (hentries : Value.entriesJson entries = true)
    {parts : List String} (h : printEntries entries = .ok parts) {fuel : Nat} {rest : List Char}
    (hfuel : (joined parts).length + 1 < fuel) :
    readEntries limits fuel (joined parts ++ '}' :: rest) = .ok (entries, rest) := by
  obtain ⟨fuel, rfl⟩ := Nat.exists_eq_succ_of_ne_zero (Nat.ne_zero_of_lt hfuel)
  cases entries with
  | nil => exact absurd rfl hne
  | cons e entries =>
    obtain ⟨k, v⟩ := e
    cases k with
    | str k =>
      rw [Value.entriesJson, Bool.and_eq_true, Bool.and_eq_true] at hentries
      obtain ⟨⟨-, hv⟩, hentries⟩ := hentries
      obtain ⟨text, texts, htext, htexts, rfl⟩ := printEntries_cons_eq_ok_iff.mp h
      have hpart (more : List Char) : (quoted k ++ ": " ++ text).toList ++ more =
          (quoted k).toList ++ ':' :: ' ' :: (text.toList ++ more) := by
        simp
      have hlength : text.toList.length + 2 ≤ (quoted k ++ ": " ++ text).toList.length := by
        simp
      cases entries with
      | nil =>
        obtain rfl := Except.ok.inj htexts
        rw [joined_singleton] at hfuel ⊢
        obtain ⟨body, hbody, hkey⟩ := readString_quoted k (':' :: ' ' :: (text.toList ++ '}' :: rest))
        rw [hpart, hbody]
        exact readEntries_last hkey
          (readValue_print hlimits v hv htext (by omega) (endsNumber_cons (by decide)))
      | cons f entries =>
        obtain ⟨l, w⟩ := f
        cases l with
        | str l =>
          obtain ⟨next, others, -, -, rfl⟩ := printEntries_cons_eq_ok_iff.mp htexts
          rw [joined_cons_cons, List.length_append, List.length_cons, List.length_cons] at hfuel
          set following := joined ((quoted l ++ ": " ++ next) :: others) ++ '}' :: rest with hfollowing
          obtain ⟨body, hbody, hkey⟩ :=
            readString_quoted k (':' :: ' ' :: (text.toList ++ ',' :: ' ' :: following))
          rw [joined_cons_cons, List.append_assoc, hpart]
          change readEntries limits (fuel + 1)
            ((quoted k).toList ++ ':' :: ' ' :: (text.toList ++ ',' :: ' ' :: following)) = _
          rw [hbody]
          exact readEntries_next hkey
            (readValue_print hlimits v hv htext (by omega) (endsNumber_cons (by decide)))
            (readEntries_print hlimits ((.str l, w) :: entries) (List.cons_ne_nil _ _) hentries htexts
              (by omega))
        | _ => simp [Value.entriesJson] at hentries
    | _ => simp [Value.entriesJson] at hentries

end

/-- What is printed is read back. -/
theorem read_print (hlimits : limits.Ample) {v : Value}
    (hv : v.isJson = true) {text : String} (h : print v = .ok text) : read limits text.toList = .ok v := by
  have hend : EndsNumber [] := by simp [EndsNumber]
  have hread := readValue_print hlimits v hv h (Nat.lt_succ_self _) hend
  rw [List.append_nil] at hread
  rw [read, (startsValue_of_readValue hread).skipBlanks_eq, hread]
  rfl

end Sidecar.Json
