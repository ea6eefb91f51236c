import Mathlib.Data.List.Forall2
import Sidecar.Proxy.Endpoint

/-!
What the API server gets of the requests of a run: the client's headers without its credentials, and the
credentials of the proxy at that time. Headers that are withheld make no difference to it.
-/

namespace Sidecar.Proxy

/-- A character that stands for a letter in either case. The kelvin sign is a capital `k`. -/
def CaseOf (c letter : Char) : Prop := c = letter ∨ c = letter.toUpper ∨ c = '\u212a' ∧ letter = 'k'

/-- A name is a word in any letter case. -/
def Spells (name word : String) : Prop := List.Forall₂ CaseOf name.toList word.toList

/-- The name of a header that is not passed on. -/
def Withheld (name : String) : Prop := ∃ word ∈ withheld, Spells name word

theorem toUpper_ofNat {n : Nat} (h : n < 91) (h' : 65 ≤ n) :
    (Char.ofNat (n + 32)).toUpper = Char.ofNat n := by
  revert h'
  revert n
  decide

theorem caseOf_of_lowerLetter (c : Char) : CaseOf c (Http.lowerLetter c) := by
  unfold Http.lowerLetter
  split_ifs with hupper hkelvin
  · right
    left
    have hc : c = Char.ofNat c.toNat := (Char.ofNat_toNat c).symm
    have hlow : 65 ≤ c.toNat := hupper.1
    have hhigh : c.toNat ≤ 90 := hupper.2
    rw [toUpper_ofNat (by omega) hlow]
    exact hc
  · right
    right
    have hc : c = Char.ofNat c.toNat := (Char.ofNat_toNat c).symm
    exact ⟨by rw [hc, hkelvin], rfl⟩
  · exact Or.inl rfl

/-- A word that is its own lower case, letter by letter. -/
def isLowerCase (word : String) : Bool :=
  word.toList.all fun letter => Http.lowerLetter letter == letter && Http.lowerLetter letter.toUpper == letter

theorem lowerLetter_eq_iff {c letter : Char}
    (h : Http.lowerLetter letter = letter ∧ Http.lowerLetter letter.toUpper = letter) :
    Http.lowerLetter c = letter ↔ CaseOf c letter := by
  constructor
  · rintro rfl
    exact caseOf_of_lowerLetter c
  · rintro (rfl | rfl | ⟨rfl, rfl⟩)
    · exact h.1
    · exact h.2
    · decide

theorem map_lowerLetter_eq_iff {name word : List Char}
    (h : ∀ letter ∈ word,
      Http.lowerLetter letter = letter ∧ Http.lowerLetter letter.toUpper = letter) :
    name.map Http.lowerLetter = word ↔ List.Forall₂ CaseOf name word := by
  induction word generalizing name with
  | nil => simp
  | cons letter word ih =>
    have hrest := fun l hl => h l (List.mem_cons_of_mem letter hl)
    cases name with
    | nil => simp
    | cons c name =>
      rw [List.map_cons, List.cons.injEq, List.forall₂_cons, ih hrest,
        lowerLetter_eq_iff (h letter List.mem_cons_self)]

theorem sameName_iff_spells {word : String} (h : isLowerCase word = true) (name : String) :
    Http.sameName name word = true ↔ Spells name word := by
  have hletters : ∀ letter ∈ word.toList,
      Http.lowerLetter letter = letter ∧ Http.lowerLetter letter.toUpper = letter := by
    simpa [isLowerCase] using h
  have hword : word.toList.map Http.lowerLetter = word.toList := by
    conv_rhs => rw [← List.map_id word.toList]
    exact List.map_congr_left fun letter hletter => (hletters letter hletter).1
  rw [Http.sameName, hword, beq_iff_eq, map_lowerLetter_eq_iff hletters, Spells]

/-- Names are compared with words as in the headers of a message. -/
theorem any_sameName_iff {words : List String} (h : words.all isLowerCase = true) (name : String) :
    words.any (Http.sameName name) = true ↔ ∃ word ∈ words, Spells name word := by
  rw [List.all_eq_true] at h
  rw [List.any_eq_true]
  constructor
  · rintro ⟨word, hword, hsame⟩
    exact ⟨word, hword, (sameName_iff_spells (h word hword) name).mp hsame⟩
  · rintro ⟨word, hword, hspells⟩
    exact ⟨word, hword, (sameName_iff_spells (h word hword) name).mpr hspells⟩

theorem without_eq_filter {words : List String} {P : String → Prop} [DecidablePred P]
    (h : ∀ name, words.any (Http.sameName name) = true ↔ P name) (headers : Http.Headers) :
    headers.without words = headers.filter fun e => ¬P e.1 := by
  unfold Http.Headers.without
  apply List.filter_congr
  intro e _
  rw [Bool.eq_iff_iff]
  simp [← h]

theorem withheld_iff (name : String) :
    withheld.any (Http.sameName name) = true ↔ Withheld name :=
  any_sameName_iff (by decide) name

instance : DecidablePred Withheld := fun name => decidable_of_iff _ (withheld_iff name)

/-- The headers of a client that are passed on, in their order. -/
def kept (headers : Http.Headers) : Http.Headers := headers.filter fun h => ¬Withheld h.1

theorem without_withheld (headers : Http.Headers) : headers.without withheld = kept headers :=
  without_eq_filter withheld_iff headers

/-- What the proxy adds: its token, if that is not empty. -/
def credential : Option String → Http.Headers
  | none => []
  | some token => if token = "" then [] else [("Authorization", token)]

theorem forwardHeaders_eq (token : Option String) (headers : Http.Headers) :
    forwardHeaders token headers = kept headers ++ credential token := by
  rw [forwardHeaders, without_withheld]
  cases token with
  | none => rfl
  | some t => by_cases ht : t = "" <;> simp [credential, ht]

theorem forward_eq (baseUrl : String) (token : Option String) (r : Http.Request) :
    forward baseUrl token r = {
      method := r.method
      url := baseUrl ++ r.target
      headers := kept r.headers ++ credential token
      body := if r.body = [] then none else some r.body } := by
  simp [forward, forwardHeaders_eq, List.isEmpty_iff]

/-- The token after events of a run. -/
def tokenAfter (token : Option String) (events : List Event) : Option String :=
  events.foldl (fun token event =>
    match event with
    | .request .. => token
    | .rotate next => next) token

variable {check : Http.BodyCheck}

theorem run_append (e : Endpoint) (token : Option String) (before after : List Event) :
    run check e token (before ++ after) = run check e token before ++ run check e (tokenAfter token before) after := by
  induction before generalizing token with
  | nil => rfl
  | cons event rest ih =>
    cases event with
    | request r reply => exact congrArg (handle check e token r reply :: ·) (ih token)
    | rotate next => exact ih next

/-- A request that is no route is not sent, nor is one whose body is not taken. -/
theorem handle_sent (e : Endpoint) (token : Option String) (r : Http.Request) (reply : Reply) :
    (handle check e token r reply).sent = 
      if isRouted r ∧ check r.body = none then some (forward e.baseUrl token r) else none := by
  unfold handle
  cases isRouted r with
  | false => rfl
  | true => cases check r.body <;> rfl

theorem forward_of_sent {e : Endpoint} {token : Option String} {r : Http.Request} {reply : Reply}
    {o : Outbound} (h : (handle check e token r reply).sent = some o) : o = forward e.baseUrl token r := by
  rw [handle_sent] at h
  split_ifs at h
  exact (Option.some.inj h).symm

/-- Requests that differ in headers only, and there only in such as are withheld. -/
structure Alike (r s : Http.Request) : Prop where
  method : r.method = s.method
  target : r.target = s.target
  body : r.body = s.body
  headers : kept r.headers = kept s.headers

/-- Events that differ in requests that are alike, whatever the API server answers. -/
inductive Event.Alike : Event → Event → Prop where
  | request {r s : Http.Request} (h : Proxy.Alike r s) (reply other : Reply) :
    Event.Alike (.request r reply) (.request s other)
  | rotate (token : Option String) : Event.Alike (.rotate token) (.rotate token)

theorem Alike.sent_eq {r s : Http.Request} (h : Alike r s) (e : Endpoint) (token : Option String)
    (reply other : Reply) : (handle check e token r reply).sent = (handle check e token s other).sent := by
  have hroute : r.route = s.route := by
    simp only [Http.Request.route, Http.Request.rawPath, h.target]
  have hrouted : isRouted r = isRouted s := by rw [isRouted, isRouted, hroute]
  rw [handle_sent, handle_sent, hrouted, forward_eq, forward_eq, h.method, h.target, h.body, h.headers]

/-- Two runs in step: what is sent is the same at every request. -/
theorem sent_run_eq {events others : List Event} (h : List.Forall₂ Event.Alike events others)
    (e : Endpoint) (token : Option String) :
    (run check e token events).map (·.sent) = (run check e token others).map (·.sent) := by
  induction h generalizing token with
  | nil => rfl
  | cons hevent _ ih =>
    cases hevent with
    | request halike reply other =>
      simp only [run, List.map_cons]
      rw [halike.sent_eq e token reply other, ih token]
    | rotate next => exact ih next

theorem not_withheld_of_mem_kept {headers : Http.Headers} {h : String × String}
    (hh : h ∈ kept headers) : ¬Withheld h.1 := by
  simpa [kept] using (List.mem_filter.mp hh).2

/-- The tokens that a run has: the first one, and those that it changes to. -/
def IsToken (token : Option String) (events : List Event) (t : String) : Prop :=
  token = some t ∨ .rotate (some t) ∈ events

/-- Of the names that are withheld, only that of the proxy's own token goes on. -/
theorem own_of_withheld {e : Endpoint} {token : Option String} {events : List Event} {x : Exchange}
    (hx : x ∈ run check e token events) {o : Outbound} (ho : x.sent = some o) {h : String × String}
    (hh : h ∈ o.headers) (hwithheld : Withheld h.1) :
    ∃ t, IsToken token events t ∧ h = ("Authorization", t) := by
  induction events generalizing token with
  | nil => simp [run] at hx
  | cons event rest ih =>
    cases event with
    | request r reply =>
      rcases List.mem_cons.mp hx with rfl | hrest
      · rw [forward_of_sent ho, forward_eq] at hh
        rcases List.mem_append.mp hh with hkept | hown
        · exact absurd hwithheld (not_withheld_of_mem_kept hkept)
        · cases token with
          | none => simp [credential] at hown
          | some t =>
            by_cases ht : t = ""
            · simp [credential, ht] at hown
            · exact ⟨t, Or.inl rfl, by simpa [credential, ht] using hown⟩
      · obtain ⟨t, ht, rfl⟩ := ih hrest
        exact ⟨t, ht.imp_right (List.mem_cons_of_mem _), rfl⟩
    | rotate next =>
      obtain ⟨t, ht, rfl⟩ := ih hx
      refine ⟨t, Or.inr ?_, rfl⟩
      rcases ht with rfl | hmem
      · exact List.mem_cons_self
      · exact List.mem_cons_of_mem _ hmem

/-- Each request of a run goes on as it is, but with the headers that are kept and the token of its time,
if it has a route and its body is taken.
So of headers that are withheld none goes on but the proxy's own, and two runs that differ only in such
headers send the same. -/
theorem run_confines_credentials (check : Http.BodyCheck) (e : Endpoint) (token : Option String) (events : List Event) :
    (∀ before r reply after, events = before ++ .request r reply :: after →
      ∃ x, run check e token events = run check e token before ++ x :: run check e (tokenAfter token before) after ∧
        x.sent = if isRouted r ∧ check r.body = none then some {
            method := r.method
            url := e.baseUrl ++ r.target
            headers := kept r.headers ++ credential (tokenAfter token before)
            body := if r.body = [] then none else some r.body }
          else none) ∧
      (∀ x ∈ run check e token events, ∀ o, x.sent = some o → ∀ h ∈ o.headers, Withheld h.1 →
        ∃ t, IsToken token events t ∧ h = ("Authorization", t)) ∧
      ∀ others, List.Forall₂ Event.Alike events others →
        (run check e token events).map (·.sent) = (run check e token others).map (·.sent) := by
  refine ⟨?_, ?_, fun others h => sent_run_eq h e token⟩
  · rintro before r reply after rfl
    refine ⟨handle check e (tokenAfter token before) r reply, run_append e token before _, ?_⟩
    rw [handle_sent, forward_eq]
  · intro x hx o ho h hh hwithheld
    exact own_of_withheld hx ho hh hwithheld

/-- Requests of clients that send credentials of their own, in several spellings. -/
def sampleList : Http.Request := { target := "/api?limit=1", headers := [
  ("Accept", "a"), ("AUTHORIZATION", "Bearer client"), ("Accept", "b"), ("\u212aeep-Alive", "5")] }

def sampleVersion : Http.Request :=
  { target := "/version", headers := [("authorization", "x"), ("Host", "pod")] }

theorem run_confines_credentials_sample :
    let events : List Event :=
      [.request sampleList (.answered {} []), .rotate "second", .request sampleVersion (.answered {} [])]
    let others : List Event := [
      .request { sampleList with headers := [("Accept", "a"), ("Accept", "b")] } (.failed (.transport "")),
      .rotate "second", .request { sampleVersion with headers := [] } (.answered {} [])]
    List.Forall₂ Event.Alike events others ∧
      (run (fun _ => none) ⟨"https://api", .standard⟩ (some "first") events).map (·.sent) = [
        some ⟨"GET", "https://api/api?limit=1",
          [("Accept", "a"), ("Accept", "b"), ("Authorization", "first")], none⟩,
        some ⟨"GET", "https://api/version", [("Authorization", "second")], none⟩] := by
  intro events others
  have hlist : Alike sampleList { sampleList with headers := [("Accept", "a"), ("Accept", "b")] } :=
    ⟨rfl, rfl, rfl, by decide⟩
  have hversion : Alike sampleVersion { sampleVersion with headers := [] } :=
    ⟨rfl, rfl, rfl, by decide⟩
  have halike : List.Forall₂ Event.Alike events others :=
    .cons (.request hlist _ _) (.cons (.rotate _) (.cons (.request hversion _ _) .nil))
  refine ⟨halike, ?_⟩
  rw [(run_confines_credentials (fun _ => none) ⟨"https://api", .standard⟩ (some "first") events).2.2 others halike]
  decide +kernel

end Sidecar.Proxy
