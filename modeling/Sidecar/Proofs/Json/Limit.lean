import Sidecar.Proofs.Json.Printable

/-!
The limits of a reader. With them, a text is read as it is without, unless the reader comes to an integer that
is too long or to a value that is too deep. What has been read under a limit on digits can be printed.
-/

namespace Sidecar.Json

/-- Limits leave a result as it is, or refuse an integer or a value that is too deep instead. -/
inductive Limited {α : Type} : Except ReadError α → Except ReadError α → Prop where
  | same (x : Except ReadError α) : Limited x x
  | refused (count : Nat) (x : Except ReadError α) : Limited (.error (.tooManyDigits count)) x
  | tooDeep (x : Except ReadError α) : Limited (.error .tooDeep) x

theorem Limited.bind {α β : Type} {x y : Except ReadError α} {f g : α → Except ReadError β}
    (h : Limited x y) (hf : ∀ a, Limited (f a) (g a)) : Limited (x >>= f) (y >>= g) := by
  cases h with
  | same =>
    cases x with
    | error e => exact .same _
    | ok a => exact hf a
  | refused count => exact .refused count _
  | tooDeep => exact .tooDeep _

/-- A number by its digits before the point and what follows them; the limit decides on nothing else. -/
theorem exists_readNumber_eq (negative : Bool) (cs : List Char) :
    ∃ whole rest : List Char, (∀ d ∈ whole, isDigit d = true) ∧ ∀ limit, readNumber limit negative cs =
      if whole.isEmpty then .error .malformed
      else if (readFraction rest).1.isEmpty && (readExponent (readFraction rest).2).1.isNone then
        if limit.any (· < whole.length) then .error (.tooManyDigits whole.length)
        else .ok (.int (if negative then -(natOfDigits whole : Int) else natOfDigits whole),
          (readExponent (readFraction rest).2).2)
      else .ok (.float (Binary64.ofDecimal negative (natOfDigits (whole ++ (readFraction rest).1))
        ((readExponent (readFraction rest).2).1.getD 0 - (readFraction rest).1.length)),
          (readExponent (readFraction rest).2).2) := by
  by_cases hzero : ∃ rest, cs = '0' :: rest
  · obtain ⟨rest, rfl⟩ := hzero
    exact ⟨['0'], rest, isDigit_of_mem_zero, fun _ => rfl⟩
  · refine ⟨cs.takeWhile isDigit, cs.dropWhile isDigit, List.all_eq_true.mp List.all_takeWhile,
      fun limit => ?_⟩
    unfold readNumber
    split
    next whole rest hparts =>
      split at hparts
      · exact absurd ⟨_, rfl⟩ hzero
      · cases hparts
        rfl

theorem limited_readNumber (limit : Option Nat) (negative : Bool) (cs : List Char) :
    Limited (readNumber limit negative cs) (readNumber none negative cs) := by
  obtain ⟨whole, rest, -, heq⟩ := exists_readNumber_eq negative cs
  rw [heq, heq]
  split
  · exact .same _
  · split
    · simp only [Option.any_none, Bool.false_eq_true, if_false]
      split
      · exact .refused _ _
      · exact .same _
    · exact .same _

/-- Limits do nothing but refuse, for readers with so much fuel. -/
structure LimitedAt (fuel : Nat) : Prop where
  value : ∀ limits cs, Limited (readValue limits fuel cs) (readValue {} fuel cs)
  items : ∀ limits cs, Limited (readItems limits fuel cs) (readItems {} fuel cs)
  entries : ∀ limits cs, Limited (readEntries limits fuel cs) (readEntries {} fuel cs)

/-- Inside of a bracket the limits are those of the inside. -/
theorem Limited.enter {α : Type} {f : Limits → Except ReadError α} (limits : Limits)
    (hf : ∀ inner, Limited (f inner) (f {})) :
    Limited (limits.enter >>= f) (({} : Limits).enter >>= f) := by
  cases hinner : limits.enter with
  | ok inner => exact hf inner
  | error e =>
    obtain rfl : e = .tooDeep := by
      unfold Limits.enter at hinner
      split at hinner <;> cases hinner
      rfl
    exact .tooDeep _

namespace LimitedAt

variable {fuel : Nat}

theorem value_succ (h : LimitedAt fuel) (limits : Limits) (cs : List Char) :
    Limited (readValue limits (fuel + 1) cs) (readValue {} (fuel + 1) cs) := by
  unfold readValue
  split
  · exact .same _
  · refine Limited.enter limits fun inner => ?_
    dsimp only
    split
    · exact .same _
    · exact (h.items inner _).bind fun _ => .same _
  · refine Limited.enter limits fun inner => ?_
    dsimp only
    split
    · exact .same _
    · exact (h.entries inner _).bind fun _ => .same _
  · split
    · exact .same _
    · split
      · exact limited_readNumber ..
      · exact limited_readNumber ..

theorem items_succ (h : LimitedAt fuel) (limits : Limits) (cs : List Char) :
    Limited (readItems limits (fuel + 1) cs) (readItems {} (fuel + 1) cs) := by
  unfold readItems
  refine (h.value limits cs).bind fun r => ?_
  obtain ⟨item, rest⟩ := r
  dsimp only
  split
  · exact .same _
  · exact (h.items limits _).bind fun _ => .same _
  · exact .same _

theorem entries_succ (h : LimitedAt fuel) (limits : Limits) (cs : List Char) :
    Limited (readEntries limits (fuel + 1) cs) (readEntries {} (fuel + 1) cs) := by
  unfold readEntries
  split
  · refine Limited.bind (.same _) fun r => ?_
    obtain ⟨key, rest⟩ := r
    dsimp only
    split
    · refine (h.value limits _).bind fun r => ?_
      obtain ⟨value, rest⟩ := r
      dsimp only
      split
      · exact .same _
      · exact (h.entries limits _).bind fun _ => .same _
      · exact .same _
    · exact .same _
  · exact .same _

end LimitedAt

theorem limitedAt (fuel : Nat) : LimitedAt fuel := by
  induction fuel with
  | zero => exact ⟨fun _ _ => .same _, fun _ _ => .same _, fun _ _ => .same _⟩
  | succ fuel ih => exact ⟨ih.value_succ, ih.items_succ, ih.entries_succ⟩

theorem limited_read (limits : Limits) (cs : List Char) : Limited (read limits cs) (read {} cs) :=
  ((limitedAt _).value limits _).bind fun _ => .same _

theorem natOfDigits_lt {digits : List Char} (h : ∀ d ∈ digits, isDigit d = true) :
    natOfDigits digits < 10 ^ digits.length := by
  have hfold (n : Nat) : digits.foldl (fun n d => n * 10 + (d.toNat - 48)) n
      < (n + 1) * 10 ^ digits.length := by
    induction digits generalizing n with
    | nil => simp
    | cons d digits ih =>
      obtain ⟨hd, hdigits⟩ := List.forall_mem_cons.mp h
      have hnine : d.toNat ≤ '9'.toNat := (of_decide_eq_true (Bool.and_eq_true_iff.mp hd).2 : d ≤ '9')
      have hstep : n * 10 + (d.toNat - 48) + 1 ≤ (n + 1) * 10 := by
        have hvalue : '9'.toNat = 57 := rfl
        omega
      calc digits.foldl (fun n d => n * 10 + (d.toNat - 48)) (n * 10 + (d.toNat - 48))
        _ < (n * 10 + (d.toNat - 48) + 1) * 10 ^ digits.length := ih hdigits _
        _ ≤ (n + 1) * 10 * 10 ^ digits.length := Nat.mul_le_mul_right _ hstep
        _ = (n + 1) * 10 ^ (d :: digits).length := by
          rw [List.length_cons, pow_succ']
          ring
  simpa [natOfDigits] using hfold 0

/-- What holds of a result, if there is one. -/
def Yields {α : Type} (p : α → Prop) (x : Except ReadError α) : Prop := ∀ a, x = .ok a → p a

theorem Yields.bind {α β : Type} {p : α → Prop} {q : β → Prop} {x : Except ReadError α}
    {f : α → Except ReadError β} (h : Yields p x) (hf : ∀ a, p a → Yields q (f a)) :
    Yields q (x >>= f) := by
  cases x with
  | error e => exact fun _ hno => nomatch hno
  | ok a => exact hf a (h a rfl)

theorem yields_error {α : Type} {p : α → Prop} {e : ReadError} : Yields p (.error e) := fun _ h => nomatch h

theorem yields_ok {α : Type} {p : α → Prop} {a : α} (h : p a) : Yields p (.ok a) := by
  intro b hb
  obtain rfl := Except.ok.inj hb
  exact h

theorem yields_true {α : Type} (x : Except ReadError α) : Yields (fun _ => True) x := fun _ _ => trivial

theorem yields_readNumber {count : Nat} (hcount : count ≤ Literal.digitLimit) (negative : Bool)
    (cs : List Char) : Yields (Printable ·.1) (readNumber (some count) negative cs) := by
  obtain ⟨whole, tail, hwhole, heq⟩ := exists_readNumber_eq negative cs
  rw [heq]
  split
  · exact yields_error
  · split
    · split
      next => exact yields_error
      next hshort =>
        have hlength : whole.length ≤ Literal.digitLimit := by
          simp only [Option.any_some, decide_eq_true_eq, Nat.not_lt] at hshort
          exact hshort.trans hcount
        have hbound {k : Nat} (hk : whole.length ≤ k) : natOfDigits whole < Nat.pow 10 k :=
          (natOfDigits_lt hwhole).trans_le (Nat.pow_le_pow_right (by decide) hk)
        have hvalue : (if negative then -(natOfDigits whole : Int) else natOfDigits whole).natAbs =
            natOfDigits whole := by
          cases negative <;> simp
        refine yields_ok (printable_int ?_)
        rw [hvalue]
        exact hbound hlength
    · exact yields_ok ⟨_, rfl⟩

theorem printable_word {found : Value × List Char} {cs : List Char}
    (h : (words.findSome? fun (word, value) => (dropWord? word cs).map (value, ·)) = some found) :
    Printable found.1 := by
  obtain ⟨⟨word, value⟩, hmem, hfound⟩ := List.exists_of_findSome?_eq_some h
  obtain ⟨rest, -, rfl⟩ := Option.map_eq_some_iff.mp hfound
  simp only [words, List.mem_cons, List.not_mem_nil, or_false, Prod.mk.injEq] at hmem
  rcases hmem with ⟨-, rfl⟩ | ⟨-, rfl⟩ | ⟨-, rfl⟩ | ⟨-, rfl⟩ | ⟨-, rfl⟩ | ⟨-, rfl⟩ <;> exact ⟨_, rfl⟩

/-- Entries that are set one after the other. -/
theorem printable_mapOfList {o : Object} (h : ∀ e ∈ o, Printable e.2) :
    Printable (Value.mapOfList o.entries) := by
  have hentries := Value.foldl_insertEntry_entries o []
  rw [Value.mapOfList, ← Object.entries_nil, hentries]
  refine printable_object_iff.mpr fun e he => h e ?_
  exact (Schema.mem_foldl_insert he).resolve_left List.not_mem_nil

theorem yields_enter (limits : Limits) : Yields (fun inner => inner.digits = limits.digits) limits.enter := by
  intro inner hinner
  unfold Limits.enter at hinner
  split at hinner <;> cases hinner <;> rfl

/-- What readers with so much fuel read under a limit on digits can be printed. -/
structure PrintableAt (count fuel : Nat) : Prop where
  value : ∀ limits : Limits, limits.digits = some count → ∀ cs,
    Yields (Printable ·.1) (readValue limits fuel cs)
  items : ∀ limits : Limits, limits.digits = some count → ∀ cs,
    Yields (fun r => ∀ item ∈ r.1, Printable item) (readItems limits fuel cs)
  entries : ∀ limits : Limits, limits.digits = some count → ∀ cs,
    Yields (fun r => ∃ o : Object, r.1 = o.entries ∧ ∀ e ∈ o, Printable e.2) (readEntries limits fuel cs)

namespace PrintableAt

variable {count fuel : Nat} {limits : Limits}

theorem value_succ (hcount : count ≤ Literal.digitLimit) (h : PrintableAt count fuel)
    (hlimits : limits.digits = some count) (cs : List Char) :
    Yields (Printable ·.1) (readValue limits (fuel + 1) cs) := by
  unfold readValue
  split
  · exact (yields_true _).bind fun r _ => yields_ok (printable_str r.1)
  · refine (yields_enter limits).bind fun inner hinner => ?_
    split
    · exact yields_ok (printable_list_iff.mpr (by simp))
    · exact (h.items inner (hinner.trans hlimits) _).bind fun r hr => yields_ok (printable_list_iff.mpr hr)
  · refine (yields_enter limits).bind fun inner hinner => ?_
    split
    · exact yields_ok (printable_object_iff (o := []).mpr (by simp))
    · refine (h.entries inner (hinner.trans hlimits) _).bind fun r hr => ?_
      obtain ⟨entries, rest⟩ := r
      obtain ⟨o, rfl, ho⟩ := hr
      exact yields_ok (printable_mapOfList ho)
  · rw [hlimits]
    split
    next found hfound => exact yields_ok (printable_word hfound)
    · split
      · exact yields_readNumber hcount _ _
      · exact yields_readNumber hcount _ _

theorem items_succ (h : PrintableAt count fuel) (hlimits : limits.digits = some count) (cs : List Char) :
    Yields (fun r => ∀ item ∈ r.1, Printable item) (readItems limits (fuel + 1) cs) := by
  unfold readItems
  refine (h.value limits hlimits cs).bind fun r hitem => ?_
  obtain ⟨item, rest⟩ := r
  dsimp only
  split
  · exact yields_ok (by simpa using hitem)
  · exact (h.items limits hlimits _).bind fun r hr => yields_ok (List.forall_mem_cons.mpr ⟨hitem, hr⟩)
  · exact yields_error

theorem entries_succ (h : PrintableAt count fuel) (hlimits : limits.digits = some count) (cs : List Char) :
    Yields (fun r => ∃ o : Object, r.1 = o.entries ∧ ∀ e ∈ o, Printable e.2)
      (readEntries limits (fuel + 1) cs) := by
  unfold readEntries
  split
  · refine (yields_true _).bind fun r _ => ?_
    obtain ⟨key, rest⟩ := r
    dsimp only
    split
    · refine (h.value limits hlimits _).bind fun r hread => ?_
      obtain ⟨value, rest⟩ := r
      dsimp only
      split
      · exact yields_ok ⟨[(key, value)], rfl, by simpa using hread⟩
      · refine (h.entries limits hlimits _).bind fun r hr => ?_
        obtain ⟨entries, rest⟩ := r
        obtain ⟨o, rfl, ho⟩ := hr
        exact yields_ok ⟨(key, value) :: o, rfl, List.forall_mem_cons.mpr ⟨hread, ho⟩⟩
      · exact yields_error
    · exact yields_error
  · exact yields_error

end PrintableAt

theorem printableAt {count : Nat} (hcount : count ≤ Literal.digitLimit) (fuel : Nat) :
    PrintableAt count fuel := by
  induction fuel with
  | zero => exact ⟨fun _ _ _ => yields_error, fun _ _ _ => yields_error, fun _ _ _ => yields_error⟩
  | succ fuel ih => exact ⟨fun _ => ih.value_succ hcount, fun _ => ih.items_succ, fun _ => ih.entries_succ⟩

/-- What is read has a text, if integers that are too long are refused. -/
theorem printable_of_read {limits : Limits} {count : Nat} (hlimits : limits.digits = some count)
    (hcount : count ≤ Literal.digitLimit) {cs : List Char} {v : Value} (h : read limits cs = .ok v) :
    Printable v := by
  refine ((printableAt hcount _).value limits hlimits _).bind (q := Printable) (fun r hr => ?_) v h
  dsimp only
  split
  · exact yields_ok hr
  · exact yields_error

end Sidecar.Json
