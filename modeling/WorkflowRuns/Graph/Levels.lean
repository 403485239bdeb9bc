import WorkflowRuns.Graph

/-!
Execution levels.  The vertices that no arrow enters are the first level; when the arrows out of a level
are taken away, the vertices that no arrow enters any more are the next.
-/

namespace WorkflowRuns.Graph

/-- How many arrows still enter a vertex, and the vertices that have become free of them. -/
structure Entering where
  counts : List (String × Nat)
  free : List String
  deriving DecidableEq, Repr

namespace Entering

def lower (vertex : String) (counts : List (String × Nat)) : List (String × Nat) :=
  counts.map fun (v, n) => (v, if v = vertex then n - 1 else n)

def release (e : Entering) (vertex : String) : Entering :=
  let counts := lower vertex e.counts
  if counts.lookup vertex = some 0 then ⟨counts.filter (·.1 ≠ vertex), e.free ++ [vertex]⟩
  else ⟨counts, e.free⟩

theorem release_size (e : Entering) (vertex : String) :
    (e.release vertex).counts.length + (e.release vertex).free.length ≤ e.counts.length + e.free.length := by
  have same : (lower vertex e.counts).length = e.counts.length := List.length_map ..
  unfold release
  simp only
  split
  next last =>
    obtain ⟨before, after, split, _⟩ := List.lookup_eq_some_iff.mp last
    have held : (vertex, 0) ∈ lower vertex e.counts := by simp [split]
    have fewer := List.length_filter_lt_length_iff_exists (p := (·.1 ≠ vertex)).mpr ⟨_, held, by simp⟩
    simp only [List.length_append, List.length_singleton]
    omega
  next =>
    simp only
    omega

end Entering

def successors (arrows : List (String × String)) (vertex : String) : List String :=
  (arrows.filter (·.1 = vertex)).map (·.2)

def Entering.next (arrows : List (String × String)) (e : Entering) : Entering :=
  (e.free.flatMap (successors arrows)).foldl release ⟨e.counts, []⟩

theorem Entering.next_size (arrows : List (String × String)) (e : Entering) :
    (e.next arrows).counts.length + (e.next arrows).free.length ≤ e.counts.length := by
  have taken : ∀ (vertices : List String) (e : Entering),
      (vertices.foldl release e).counts.length + (vertices.foldl release e).free.length ≤
        e.counts.length + e.free.length := by
    intro vertices
    induction vertices with
    | nil => exact fun e => Nat.le_refl _
    | cons vertex rest ih => exact fun e => Nat.le_trans (ih (e.release vertex)) (e.release_size vertex)
  exact taken _ ⟨e.counts, []⟩

/-- The free vertices, and those that become free as they are taken away; none if vertices are left that do
not. -/
def generations (arrows : List (String × String)) (e : Entering) : Option (List (List String)) :=
  if e.free = [] then if e.counts = [] then some [] else none
  else (generations arrows (e.next arrows)).map (e.free :: ·)
termination_by e.counts.length + e.free.length
decreasing_by
  have fewer := e.next_size arrows
  have some := List.length_pos_iff.mpr ‹e.free ≠ []›
  omega

def entering (g : Graph) : Entering :=
  let counts := g.vertices.map fun vertex => (vertex, g.arrows.countP (·.2 = vertex))
  ⟨counts.filter (0 < ·.2), (counts.filter (·.2 = 0)).map (·.1)⟩

def inOrder (ids : List String) : List String := ids.mergeSort fun a b => decide (a ≤ b)

/-- The levels, each in code point order; no levels if the graph has a cycle. -/
def levels (g : Graph) : List (List String) :=
  ((generations g.arrows g.entering).getD []).map inOrder

def entryNodes (g : Graph) : List Node :=
  g.nodes.filter fun node => !g.edges.any (·.target = node.id)

end WorkflowRuns.Graph
