/-!
How alike two words are: twice the number of characters in common blocks, over the number of all.  The
longest common block comes first, and blocks are looked for on both sides of it.
-/

namespace WorkflowRuns.Text

def commonPrefix : List Char → List Char → Nat
  | a :: as, b :: bs => if a = b then commonPrefix as bs + 1 else 0
  | _, _ => 0

structure Block where
  first : Nat
  second : Nat
  size : Nat
  deriving DecidableEq, Repr

/-- The longest common block; of several, the one that starts first in the first word, then in the
second. -/
def longestBlock (a b : List Char) : Block :=
  let starts := (List.range a.length).flatMap fun i => (List.range b.length).map fun j => (i, j)
  starts.foldl (fun best (i, j) =>
    let size := commonPrefix (a.drop i) (b.drop j)
    if best.size < size then ⟨i, j, size⟩ else best) ⟨0, 0, 0⟩

def matching : Nat → List Char → List Char → Nat
  | 0, _, _ => 0
  | fuel + 1, a, b =>
      let block := longestBlock a b
      if block.size = 0 then 0
      else matching fuel (a.take block.first) (b.take block.second) + block.size
        + matching fuel (a.drop (block.first + block.size)) (b.drop (block.second + block.size))

def similarity (a b : String) : Rat :=
  let total := a.length + b.length
  if total = 0 then 1 else mkRat (2 * matching a.length a.toList b.toList) total

/-- Least similarity of a word that is suggested, and the most words suggested. -/
def suggestionBound : Rat := mkRat 3 5
def suggestionLimit : Nat := 3

def suggestions (word : String) (known : List String) : List String :=
  let scored := (known.map fun other => (similarity other word, other)).filter fun (score, _) =>
    suggestionBound ≤ score
  let best := scored.mergeSort fun (s, w) (s', w') => s' < s || (s = s' && w' ≤ w)
  ((best.take suggestionLimit).map (·.2)).mergeSort (· ≤ ·)

end WorkflowRuns.Text
