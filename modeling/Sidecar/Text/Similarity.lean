/-!
How alike two words are: the share of their characters that stand in common stretches.
-/

namespace Sidecar.Similarity

/-- The number of characters that two words begin with in common. -/
def commonStart : List Char → List Char → Nat
  | a :: as, b :: bs => if a = b then commonStart as bs + 1 else 0
  | _, _ => 0

/-- A common stretch: where it starts in each word, and its length. -/
structure Stretch where
  left : Nat
  right : Nat
  length : Nat
  deriving DecidableEq, Repr

/-- A longest common stretch, the first one of those. -/
def longest (a b : List Char) : Stretch :=
  let all := (List.range a.length).flatMap fun i =>
    (List.range b.length).map fun j => ⟨i, j, commonStart (a.drop i) (b.drop j)⟩
  all.foldl (fun best s => if best.length < s.length then s else best) ⟨0, 0, 0⟩

/-- The characters in a longest common stretch and, within the words, before and after it. Each round
takes characters from the first word, so that its length bounds the rounds. -/
def commonWithin : Nat → List Char → List Char → Nat
  | 0, _, _ => 0
  | rounds + 1, a, b =>
    match longest a b with
    | ⟨_, _, 0⟩ => 0
    | ⟨i, j, n⟩ =>
      n + commonWithin rounds (a.take i) (b.take j) + commonWithin rounds (a.drop (i + n)) (b.drop (j + n))

def common (a b : String) : Nat := commonWithin a.length a.toList b.toList

/-- Words are close if common stretches make up three fifths of both. -/
def isClose (a b : String) : Bool := 3 * (a.length + b.length) ≤ 10 * common a b

/-- The candidates close to a word, in alphabetical order. -/
def closeTo (word : String) (candidates : List String) : List String :=
  (candidates.filter (isClose · word)).mergeSort fun a b => decide (a ≤ b)

end Sidecar.Similarity
