import WorkflowRuns.Display.Quantity
import WorkflowRuns.Display.Renderable
import WorkflowRuns.Display.Status
import WorkflowRuns.Graph.Levels

/-!
A graph as a tree: from each entry node along the edges.  A node that was met on the way down is not
entered again, and the depth is bounded.
-/

namespace WorkflowRuns.Display

def describeParams (node : Node) : Except Overflow String :=
  match node.params with
  | .manualStart label _ => .ok (label.getD "")
  | .httpRequest method url _ => .ok (method.word ++ " " ++ url)
  | .wait duration _ => durationText (.int duration)

def kindSymbol : NodeKind → String
  | .manualStart => "[▶]"
  | .httpRequest => "[H]"
  | .wait => "[W]"

def kindColor : NodeKind → String
  | .manualStart => "cyan"
  | .httpRequest => "magenta"
  | .wait => "blue"

def indicator : NodeStatus → String
  | .pending => ""
  | .success => " ✓"
  | .error => " ✗"
  | .skipped => " ⊘"

/-- A name in the colour of its kind, or of its status once it has one. -/
def nodeLabel (node : Node) : Except Overflow String := do
  let summary ← describeParams node
  let summary := if summary = "" then "" else " " ++ styled "dim" (escape summary)
  let name := escape (kindSymbol node.kind) ++ " " ++ escape node.id
  if node.status = .pending then return styled (kindColor node.kind) name ++ summary
  let duration ← match node.duration with
    | some n => do
        let text ← durationText (.int n)
        pure (" " ++ styled "dim" ("(" ++ text ++ ")"))
    | none => pure ""
  return styled (statusColor node.status.word) (name ++ indicator node.status) ++ summary ++ duration

def leaf (label : String) : Tree := .branch label []

structure Trail where
  graph : Graph
  shown : List Node

namespace Trail

def next (t : Trail) (id : String) : List Node :=
  (t.graph.edges.filter fun edge => edge.source = id && t.graph.nodeIds.contains id).filterMap
    fun edge => Graph.nodeWithId? t.shown edge.target

mutual
/-- The branch of a node, with `depth` levels left and `met` on the way to it. -/
def branch (t : Trail) (met : List String) (depth : Nat) (node : Node) : Except Overflow Tree :=
  match depth with
  | 0 => .ok (leaf (styled "dim" "... (max depth reached)"))
  | depth + 1 =>
      if met.contains node.id then .ok (leaf (styled "dim" ("↩ " ++ escape node.id ++ " (loop)")))
      else do
        let label ← nodeLabel node
        let children ← t.branches (node.id :: met) depth (t.next node.id)
        return .branch label children
termination_by (depth, 0)

def branches (t : Trail) (met : List String) (depth : Nat) (nodes : List Node) : Except Overflow (List Tree) :=
  match nodes with
  | [] => .ok []
  | node :: rest => do
      let first ← t.branch met depth node
      let others ← t.branches met depth rest
      return first :: others
termination_by (depth, nodes.length + 1)
end

end Trail

def standardDepth : Nat := 50

def graphTree (g : Graph) (shown : List Node) (title : String) (depth : Nat) : Except Overflow Tree := do
  let root := styled "bold" (escape title)
  let roots := g.entryNodes.filterMap fun node => Graph.nodeWithId? shown node.id
  if roots.isEmpty then
    let note :=
      if shown.isEmpty then styled "dim" "Empty workflow"
      else styled "red" "No entry node (graph is cyclic)"
    return .branch root [leaf note]
  return .branch root (← Trail.branches ⟨g, shown⟩ [] depth roots)

end WorkflowRuns.Display
