import WorkflowRuns.Graph

/-!
Finding a directed cycle by depth-first search over arrows.  From each vertex not yet explored the
arrows are traversed, each once, and those of the current path are kept; an arrow back into the path
closes a cycle.
-/

namespace WorkflowRuns.Graph

abbrev Arrow := String × String

def takeArrow (vertex : String) : List Arrow → Option (Arrow × List Arrow)
  | [] => none
  | arrow :: rest =>
      if arrow.1 = vertex then some (arrow, rest)
      else (takeArrow vertex rest).map fun (found, others) => (found, arrow :: others)

theorem takeArrow_length {vertex : String} {arrows others : List Arrow} {found : Arrow}
    (taken : takeArrow vertex arrows = some (found, others)) : others.length + 1 = arrows.length := by
  induction arrows generalizing others with
  | nil => simp [takeArrow] at taken
  | cons arrow rest ih =>
      unfold takeArrow at taken
      split at taken
      · simp only [Option.some.injEq, Prod.mk.injEq] at taken
        simp [taken.2]
      · obtain ⟨⟨f, o⟩, inner, same⟩ := Option.map_eq_some_iff.mp taken
        simp only [Prod.mk.injEq] at same
        have shorter : o.length + 1 = rest.length := ih (by rw [inner, same.1])
        simp [← same.2, shorter]

/-- The arrows in the order of a depth-first walk; the head of `stack` is where the walk stands. -/
def traverse (remaining : List Arrow) : List String → List Arrow
  | [] => []
  | vertex :: below =>
      match _taken : takeArrow vertex remaining with
      | some (arrow, others) => arrow :: traverse others (arrow.2 :: vertex :: below)
      | none => traverse remaining below
termination_by stack => 2 * remaining.length + stack.length
decreasing_by
  · have := takeArrow_length _taken
    simp only [List.length_cons]
    omega
  · simp

/-- The path of the search: its arrows with the last one first, the vertices on it, and the vertex
it has reached. -/
structure Path where
  arrows : List Arrow
  active : List String
  seen : List String
  reached : Option String
  deriving Repr

/-- Steps back along the path until it ends at `tail`; a path given up leaves only `tail`. -/
def backtrack (tail : String) : List Arrow → List String → List Arrow × List String
  | [], _ => ([], [tail])
  | popped :: rest, active =>
      let active := active.filter (· ≠ popped.2)
      match rest with
      | last :: _ => if last.2 = tail then (rest, active) else backtrack tail rest active
      | [] => ([], [tail])

/-- Follows the traversal; the arrows of a closed path, last first, or the vertices seen. -/
def follow (explored : List String) : Path → List Arrow → List Arrow ⊕ List String
  | path, [] => .inr path.seen
  | path, (tail, head) :: rest =>
      if head ∈ explored then follow explored path rest
      else
        let (arrows, active) := match path.reached with
          | some reached => if tail = reached then (path.arrows, path.active)
              else backtrack tail path.arrows path.active
          | none => (path.arrows, path.active)
        let arrows := (tail, head) :: arrows
        if head ∈ active then .inl arrows
        else follow explored ⟨arrows, head :: active, head :: path.seen, some head⟩ rest

/-- Searches from each start that is not yet explored. -/
def search (arrows : List Arrow) (explored : List String) : List String → Option (List Arrow)
  | [] => none
  | start :: rest =>
      if start ∈ explored then search arrows explored rest
      else match follow explored ⟨[], [start], [start], none⟩ (traverse arrows [start]) with
        | .inl closed => some closed
        | .inr seen => search arrows (seen ++ explored) rest

def cycleOf (closed : List Arrow) : List Arrow :=
  match closed with
  | [] => []
  | (_, final) :: _ => closed.reverse.dropWhile (·.1 ≠ final)

/-- The vertices of the first cycle that the search meets. -/
def cycle? (g : Graph) : Option (List String) :=
  (search g.arrows [] g.vertices).map fun closed => (cycleOf closed).map (·.1)

end WorkflowRuns.Graph
