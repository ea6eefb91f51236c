import Sidecar.Proofs.Json.Document
import Sidecar.Proofs.Proxy.Forward

/-!
What the client of a request gets of the API server's answer: one head, and the chunks that came before the
end or the failure. Main statement: this is so for exactly those requests that have a route and a body that
the web framework takes, as long as the reason in the head fits into one line.
-/

namespace Sidecar.Proxy

/-- How a body ends. -/
inductive Ending where
  | complete
  | brokenOff (reason : String)
  deriving DecidableEq, Repr

/-- What the API server does with a request: it fails before there is a head, or it answers. Failures are
those of the connection. -/
inductive Behaviour where
  | unavailable (reason : String)
  | answers (head : Head) (chunks : List (List UInt8)) (ending : Ending)
  deriving DecidableEq, Repr

def Ending.events : Ending → List BodyEvent
  | .complete => []
  | .brokenOff reason => [.failed (.transport reason)]

def Behaviour.reply : Behaviour → Reply
  | .unavailable reason => .failed (.transport reason)
  | .answers head chunks ending => .answered head (chunks.map .chunk ++ ending.events)

/-- What goes over the connection to a client, piece by piece. -/
inductive Frame where
  | head (head : SentHead)
  | chunk (bytes : List UInt8)
  /-- An answer of the proxy itself, with its head. -/
  | own (response : Http.Response)
  deriving DecidableEq, Repr

def Frame.isHead : Frame → Bool
  | .chunk _ => false
  | .head _ | .own _ => true

/-- The bytes of a body that are passed on. -/
def Frame.bytes : Frame → List UInt8
  | .chunk bytes => bytes
  | .head _ | .own _ => []

/-- Nothing goes out of an exchange that is given up before its head. -/
def Answer.frames : Answer → List Frame
  | .streamed head chunks _ => .head head :: chunks.map .chunk
  | .own response => [.own response]
  | .aborted _ => []

/-- The name of a header of an answer that is not passed on. -/
def Dropped (name : String) : Prop := ∃ word ∈ hopByHop ++ ["content-length"], Spells name word

theorem dropped_iff (name : String) :
    (hopByHop ++ ["content-length"]).any (Http.sameName name) = true ↔ Dropped name :=
  any_sameName_iff (by decide) name

instance : DecidablePred Dropped := fun name => decidable_of_iff _ (dropped_iff name)

/-- What the client is to get: that the API server cannot be reached, or its answer as far as it came. -/
def Behaviour.Promises : Behaviour → List Frame → Prop
  | .unavailable reason, frames => ∃ text, frames = [.own (.json 502 text)] ∧
      Json.read {} text.toList = .ok (failureDocument reason)
  | .answers head chunks _, frames =>
      frames.head? = some (.head {
        status := head.status
        reason := head.reason.getD (Http.phrase head.status)
        headers := head.headers.filter fun h => ¬Dropped h.1 }) ∧
      frames.flatMap Frame.bytes = chunks.flatten

/-- The client has one answer, and it is the one that is promised. -/
structure Relayed (b : Behaviour) (frames : List Frame) : Prop where
  oneHead : frames.countP Frame.isHead = 1
  promised : b.Promises frames

/-- A text that fits into a line. -/
def OneLine (text : String) : Prop := ∀ c ∈ text.toList, c ≠ '\r' ∧ c ≠ '\n'

/-- The reason in the head, if it has one, fits into a line. -/
def Behaviour.HasPlainReason : Behaviour → Prop
  | .unavailable _ => True
  | .answers head _ _ => ∀ reason ∈ head.reason, OneLine reason

theorem read_unavailable (reason : String) : ∃ text, unavailable reason = .json 502 text ∧
    Json.read {} text.toList = .ok (failureDocument reason) := by
  obtain ⟨text, htext⟩ := print_failureDocument reason
  refine ⟨text, ?_, Json.read_print ⟨by simp, rfl⟩ rfl htext⟩
  rw [unavailable, htext]

theorem oneLine_phrase (status : Nat) : OneLine (Http.phrase status) := by
  have hall : (Http.phrases.all fun entry => entry.2.toList.all fun c => c != '\r' && c != '\n') = true := by
    decide +kernel
  simp only [List.all_eq_true, Bool.and_eq_true, bne_iff_ne] at hall
  unfold Http.phrase
  cases hlookup : Http.phrases.lookup status with
  | none => simp [OneLine]
  | some phrase =>
    obtain ⟨front, back, hphrases, -⟩ := List.lookup_eq_some_iff.mp hlookup
    exact hall (status, phrase) (hphrases ▸ List.mem_append_right _ List.mem_cons_self)

theorem oneLine_getD_iff (head : Head) :
    OneLine (head.reason.getD (Http.phrase head.status)) ↔ ∀ reason ∈ head.reason, OneLine reason := by
  cases head.reason with
  | none => simpa using oneLine_phrase head.status
  | some reason => simp

theorem any_isBreak_iff (text : String) :
    (text.toList.any fun c => c == '\r' || c == '\n') = true ↔ ¬OneLine text := by
  simp only [OneLine, List.any_eq_true, Bool.or_eq_true, beq_iff_eq]
  grind

/-- A head whose reason fits into a line goes out, without the headers that are dropped. -/
theorem relayHead?_of_oneLine {head : Head} (h : ∀ reason ∈ head.reason, OneLine reason) :
    relayHead? head = some {
      status := head.status
      reason := head.reason.getD (Http.phrase head.status)
      headers := head.headers.filter fun h => ¬Dropped h.1 } := by
  rw [← oneLine_getD_iff] at h
  rw [relayHead?, without_eq_filter dropped_iff, if_neg fun hbreak => (any_isBreak_iff _).mp hbreak h]

theorem relayHead?_of_not_oneLine {head : Head} (h : ¬∀ reason ∈ head.reason, OneLine reason) :
    relayHead? head = none := by
  rw [← oneLine_getD_iff] at h
  rw [relayHead?, if_pos ((any_isBreak_iff _).mpr h)]

theorem relayBody_chunks (r : Http.Request) (head : SentHead) (out chunks : List (List UInt8))
    (rest : List BodyEvent) :
    relayBody r head out (chunks.map .chunk ++ rest) = relayBody r head (out ++ chunks) rest := by
  induction chunks generalizing out with
  | nil => simp
  | cons bytes chunks ih =>
    rw [List.map_cons, List.cons_append, relayBody, ih, List.append_assoc, List.singleton_append]

/-- Whether the body comes to its end or not, the client has the head and the chunks. -/
theorem frames_relayBody (r : Http.Request) (head : SentHead) (chunks : List (List UInt8)) (ending : Ending) :
    (relayBody r head chunks ending.events).1.frames = .head head :: chunks.map .chunk := by
  cases ending <;> rfl

/-- What a handler sends for an answer whose head goes out. -/
theorem frames_relay (r : Http.Request) {head : Head} {sent : SentHead} (h : relayHead? head = some sent)
    (chunks : List (List UInt8)) (ending : Ending) :
    (relay r (Behaviour.answers head chunks ending).reply).1.frames = .head sent :: chunks.map .chunk := by
  rw [Behaviour.reply, relay, h]
  simp only [relayBody_chunks, List.nil_append, frames_relayBody]

example : (relay { target := "/" } (Behaviour.answers
    { headers := [("ETag", "1"), ("KEEP-ALIVE", "5"), ("Content-length", "9"), ("etag", "2")] }
    [[1], [], [2]] (.brokenOff "reset")).reply).1.frames =
      [.head ⟨200, "OK", [("ETag", "1"), ("etag", "2")]⟩, .chunk [1], .chunk [], .chunk [2]] := by
  decide +kernel

theorem countP_isHead_chunks (chunks : List (List UInt8)) :
    (chunks.map Frame.chunk).countP Frame.isHead = 0 := by
  rw [List.countP_eq_zero, List.forall_mem_map]
  exact fun _ _ => Bool.false_ne_true

theorem flatMap_bytes_chunks (chunks : List (List UInt8)) :
    (chunks.map Frame.chunk).flatMap Frame.bytes = chunks.flatten := by
  rw [List.flatMap_map]
  exact List.flatMap_id

/-- Once a request has a handler, it is the reason alone that can keep an answer from the client. -/
theorem relayed_relay_iff (r : Http.Request) (b : Behaviour) :
    Relayed b (relay r b.reply).1.frames ↔ b.HasPlainReason := by
  cases b with
  | unavailable reason =>
    obtain ⟨text, htext, hread⟩ := read_unavailable reason
    have hframes : (relay r (Behaviour.unavailable reason).reply).1.frames = [.own (.json 502 text)] := by
      rw [← htext]
      rfl
    rw [hframes]
    exact iff_of_true ⟨rfl, text, rfl, hread⟩ trivial
  | answers head chunks ending =>
    rw [Behaviour.HasPlainReason]
    by_cases hplain : ∀ reason ∈ head.reason, OneLine reason
    · rw [frames_relay r (relayHead?_of_oneLine hplain)]
      refine iff_of_true ⟨?_, rfl, ?_⟩ hplain
      · rw [List.countP_cons_of_pos rfl, countP_isHead_chunks]
      · rw [List.flatMap_cons, flatMap_bytes_chunks]
        rfl
    · have hframes : (relay r (Behaviour.answers head chunks ending).reply).1.frames = [] := by
        rw [Behaviour.reply, relay, relayHead?_of_not_oneLine hplain]
        rfl
      rw [hframes]
      refine iff_of_false ?_ hplain
      rintro ⟨hone, -⟩
      exact absurd hone (by decide)

/-- An answer that the web framework gives is none that is promised. -/
theorem not_relayed_own {b : Behaviour} {response : Http.Response} (h : response.status ≠ 502) :
    ¬Relayed b (Answer.own response).frames := by
  rintro ⟨-, hpromised⟩
  cases b with
  | unavailable reason =>
    obtain ⟨text, hframes, -⟩ := hpromised
    obtain rfl : response = .json 502 text := by simpa [Answer.frames] using hframes
    exact h rfl
  | answers head chunks ending =>
    obtain ⟨hhead, -⟩ := hpromised
    simp [Answer.frames] at hhead

end Sidecar.Proxy
