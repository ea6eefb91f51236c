import Sidecar.Schema.Issue
import Sidecar.Text.Blank
import Sidecar.Text.Utf8

/-!
Reading values as texts, integers, truth values, lists and free objects. Reading is lenient: a number
may be given by its text, and a text by its bytes.
-/

namespace Sidecar.Schema

/-- A result, or all that is wrong with the input, in reading order. -/
inductive Checked (α : Type) where
  | ok (a : α)
  | wrong (issues : List Issue)
  deriving Repr

namespace Checked

variable {α β : Type}

def map (f : α → β) : Checked α → Checked β
  | .ok a => .ok (f a)
  | .wrong issues => .wrong issues

/-- What is wrong with either side is kept. -/
def ap : Checked (α → β) → Checked α → Checked β
  | .ok f, .ok a => .ok (f a)
  | .ok _, .wrong issues => .wrong issues
  | .wrong issues, .ok _ => .wrong issues
  | .wrong issues, .wrong more => .wrong (issues ++ more)

instance : Applicative Checked where
  pure := .ok
  map := Checked.map
  seq f x := f.ap (x ())

@[simp] theorem map_eq_ok_iff {f : α → β} {x : Checked α} {b : β} :
    f <$> x = .ok b ↔ ∃ a, x = .ok a ∧ f a = b := by
  cases x <;> simp [Functor.map, map]

@[simp] theorem seq_eq_ok_iff {f : Checked (α → β)} {x : Checked α} {b : β} :
    f <*> x = .ok b ↔ ∃ g a, f = .ok g ∧ x = .ok a ∧ g a = b := by
  cases f <;> cases x <;> simp [Seq.seq, ap]

def within (step : Step) : Checked α → Checked α
  | .ok a => .ok a
  | .wrong issues => .wrong (issues.map (Issue.within step))

def fail (problem : Problem) (input : Value) : Checked α := .wrong [⟨[], problem, input⟩]

/-- The result, or a report that names the model. -/
def report (model : String) : Checked α → Except Report α
  | .ok a => .ok a
  | .wrong issues => .error ⟨model, issues⟩

end Checked

def text : Value → Checked String
  | .str s => .ok s
  | .bytes b =>
    match Utf8.decode? b with
    | some s => .ok s
    | none => .fail .notUnicode (.bytes b)
  | v => .fail .notText v

/-- How the text of an integer reads. -/
inductive IntegerText where
  | value (n : Int)
  | malformed
  | tooLong
  deriving DecidableEq, Repr

private def isDigit (c : Char) : Bool := '0' ≤ c && c ≤ '9'

/-- A minus sign, if there is one, and digits, the first of which is no zero unless it is the only one.
They are counted before what follows them is looked at. -/
private def bareInteger (cs : List Char) : IntegerText :=
  let (negative, body) := match cs with
    | '-' :: rest => (true, rest)
    | _ => (false, cs)
  match body.span isDigit with
  | ([], _) | ('0' :: _ :: _, _) => .malformed
  | (digits, rest) =>
    if Literal.digitLimit < digits.length + (if negative then 1 else 0) then .tooLong
    else if rest.isEmpty then
      let n : Int := digits.foldl (fun n d => n * 10 + (d.toNat - 48)) (0 : Nat)
      .value (if negative then -n else n)
    else .malformed

/-- What follows zeros and underscores, of which `last` was the last. It is kept if nothing follows that
could stand for itself. -/
private def dropZeros (last : Char) : List Char → Option (List Char)
  | [] => some [last]
  | c :: rest =>
    if c == '0' || c == '_' then dropZeros c rest
    else if c == '-' || isDigit c then some (c :: rest)
    else if c == '.' then some (last :: c :: rest)
    else none

private def withoutLeadingZeros : List Char → Option (List Char)
  | '0' :: rest => dropZeros '0' rest
  | c :: rest => if c == '-' || isDigit c then some (c :: rest) else none
  | [] => none

private def withoutFraction (cs : List Char) : Option (List Char) :=
  match cs.span (· != '.') with
  | (whole, []) => some whole
  | (whole, _ :: zeros) => if !zeros.isEmpty && zeros.all (· == '0') then some whole else none

/-- Underscores may stand one at a time, and not at the ends. -/
private def withoutUnderscores (cs : List Char) : Option (List Char) :=
  let adjacent := (cs.zip (cs.drop 1)).contains ('_', '_')
  if cs.head? = some '_' || cs.getLast? = some '_' || adjacent then none
  else some (cs.filter (· != '_'))

/-- The text of an integer without what may be around and between its digits: blanks, a plus sign, zeros
in front, a fraction of zeros, and underscores. -/
private def bared? (cs : List Char) : Option (List Char) := do
  let unsigned ← match Text.trim Text.isBlank cs with
    | '+' :: '-' :: _ => none
    | '+' :: rest => some rest
    | cs => some cs
  withoutUnderscores (← withoutFraction (← withoutLeadingZeros unsigned))

def readInteger (s : String) : IntegerText :=
  match bareInteger s.toList with
  | .malformed => ((bared? s.toList).map bareInteger).getD .malformed
  | result => result

private def integerOfText (s : String) (v : Value) : Checked Int :=
  match readInteger s with
  | .value n => .ok n
  | .malformed => .fail .integerText v
  | .tooLong => .fail .integerSize v

def integer : Value → Checked Int
  | .int n => .ok n
  | .bool b => .ok (if b then 1 else 0)
  | .float x =>
    match x with
    | .finite .. =>
      match x.toInt? with
      | some n => if -wordBound < n ∧ n < wordBound then .ok n else .fail .integerSize (.float x)
      | none => .fail .fractional (.float x)
    | _ => .fail .notFinite (.float x)
  | .str s => integerOfText s (.str s)
  | .bytes b =>
    match Utf8.decode? b with
    | some s => integerOfText s (.bytes b)
    | none => .fail .integerText (.bytes b)
  | v => .fail .notInteger v

private def lower (c : Char) : Char := if 'A' ≤ c ∧ c ≤ 'Z' then Char.ofNat (c.toNat + 32) else c

/-- The words for truth values, in any case of ASCII letters. -/
def truthValue? (s : String) : Option Bool :=
  let word := String.ofList (s.toList.map lower)
  if ["1", "on", "t", "true", "y", "yes"].contains word then some true
  else if ["0", "off", "f", "false", "n", "no"].contains word then some false
  else none

private def truthValueOfText (s : String) (v : Value) : Checked Bool :=
  match truthValue? s with
  | some b => .ok b
  | none => .fail .truthValueText v

private def truthValueOfInteger (n : Int) (v : Value) : Checked Bool :=
  if n = 0 then .ok false else if n = 1 then .ok true else .fail .truthValueText v

def truthValue : Value → Checked Bool
  | .bool b => .ok b
  | .int n => if fitsWord n then truthValueOfInteger n (.int n) else .fail .notTruthValue (.int n)
  | .float x =>
    match x.toInt? with
    | some n =>
      if -wordBound < n ∧ n < wordBound then truthValueOfInteger n (.float x)
      else .fail .notTruthValue (.float x)
    | none => .fail .notTruthValue (.float x)
  | .str s => truthValueOfText s (.str s)
  | .bytes b =>
    match Utf8.decode? b with
    | some s => truthValueOfText s (.bytes b)
    | none => .fail .truthValueText (.bytes b)
  | v => .fail .notTruthValue v

def nullable (read : Value → Checked α) : Value → Checked (Option α)
  | .null => .ok none
  | v => some <$> read v

def items (read : Value → Checked α) : Nat → List Value → Checked (List α)
  | _, [] => .ok []
  | index, v :: rest =>
    List.cons <$> (read v).within (.item index) <*> items read (index + 1) rest

def list (read : Value → Checked α) : Value → Checked (List α)
  | .list vs | .tuple vs | .set vs => items read 0 vs
  | v => .fail .notList v

/-- Sets the value of a key, in place if there is one. -/
def insert (key : String) (a : α) : List (String × α) → List (String × α)
  | [] => [(key, a)]
  | (k, b) :: rest => if k = key then (k, a) :: rest else (k, b) :: insert key a rest

def entries (read : Value → Checked α) : List (Value × Value) → Checked (List (String × α))
  | [] => .ok []
  | (k, v) :: rest =>
    let key := ((text k).within .key).within (.entry k)
    List.cons <$> (Prod.mk <$> key <*> (read v).within (.entry k)) <*> entries read rest

/-- An object with texts as keys and values of one type. -/
def object (read : Value → Checked α) : Value → Checked (List (String × α))
  | .map es => (·.foldl (fun acc (k, a) => insert k a acc) []) <$> entries read es
  | v => .fail .notObject v

def anything (v : Value) : Checked Value := .ok v

/-- The key that a declared field has in documents, and its own name. The key is looked up first. -/
structure FieldName where
  key : String
  name : String
  deriving DecidableEq, Repr

namespace FieldName

/-- The field's value and the key it stands under. -/
def find? (field : FieldName) (es : List (Value × Value)) : Option (String × Value) :=
  match (Value.map es).field? field.key with
  | some v => some (field.key, v)
  | none => ((Value.map es).field? field.name).map (field.name, ·)

/-- A field that must be there. -/
def required (field : FieldName) (read : Value → Checked α) (es : List (Value × Value)) : Checked α :=
  match field.find? es with
  | some (key, v) => (read v).within (.entry (.str key))
  | none => .wrong [⟨[.entry (.str field.key)], .missing, .map es⟩]

/-- A field with a value to be taken when it is absent. -/
def withDefault (field : FieldName) (default : α) (read : Value → Checked α)
    (es : List (Value × Value)) : Checked α :=
  match field.find? es with
  | some (key, v) => (read v).within (.entry (.str key))
  | none => .ok default

/-- A field that may be absent or null. -/
def optional (field : FieldName) (read : Value → Checked α) (es : List (Value × Value)) :
    Checked (Option α) :=
  field.withDefault none (nullable read) es

end FieldName

/-- The entries that no declared field has taken, with their keys as texts. -/
def undeclared (fields : List FieldName) (es : List (Value × Value)) : Checked (List (String × Value)) :=
  let taken := fields.filterMap fun field => (field.find? es).map (·.1)
  let rec collect : List (Value × Value) → Checked (List (String × Value))
    | [] => .ok []
    | (.str k, v) :: rest =>
      if taken.contains k then collect rest else ((k, v) :: ·) <$> collect rest
    | (k, _) :: rest => Checked.wrong [⟨[.entry k], .keyNotText, k⟩] <*> collect rest
  collect es

/-- An object of a declared model. -/
def model (name : String) (read : List (Value × Value) → Checked α) : Value → Checked α
  | .map es => read es
  | v => .fail (.notModel name) v

end Sidecar.Schema
