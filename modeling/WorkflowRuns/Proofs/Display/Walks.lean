import Mathlib.Data.List.Chain
import Mathlib.Data.List.Nodup
import WorkflowRuns.Proofs.Display.Drawing

/-!
The tree of a graph as the walks that it is made of.  Each branch of the tree stands at the end of a chain
of labels from the root, and the chains are those of the walks from the entry nodes along the edges.  A walk
goes on as long as it meets new nodes and levels are left.
-/

namespace WorkflowRuns.Display

mutual
/-- The labels on the way to each branch of a tree, in the order in which the branches are drawn. -/
def Tree.chains : Tree → List (List String)
  | .branch label children => [label] :: (chainsOf children).map (label :: ·)

def chainsOf : List Tree → List (List String)
  | [] => []
  | tree :: rest => tree.chains ++ chainsOf rest
end

def Tree.underRoot : Tree → List (List String)
  | .branch _ children => chainsOf children

def depthMark : String := styled "dim" "... (max depth reached)"

def loopMark (id : String) : String := styled "dim" ("↩ " ++ escape id ++ " (loop)")

def rootlessNote (shown : List Node) : String :=
  if shown.isEmpty then styled "dim" "Empty workflow" else styled "red" "No entry node (graph is cyclic)"

theorem nodeWithId?_some {nodes : List Node} {id : String} {node : Node}
    (found : Graph.nodeWithId? nodes id = some node) : node ∈ nodes ∧ node.id = id :=
  ⟨List.mem_reverse.mp (List.mem_of_find?_eq_some found), by simpa using List.find?_some found⟩

namespace Trail

/-- The walks from a node with `depth` steps left, `met` before it; a walk that cannot go on still counts. -/
def walks (t : Trail) (met : List String) : Nat → Node → List (List Node)
  | 0, node => [[node]]
  | depth + 1, node =>
      [node] :: if met.contains node.id then []
        else ((t.next node.id).flatMap (t.walks (node.id :: met) depth)).map (node :: ·)

/-- The labels of a walk; a mark stands for the node past the last level, or for one that was met. -/
def labels (met : List String) : Nat → List Node → Except Overflow (List String)
  | _, [] => .ok []
  | 0, _ :: _ => .ok [depthMark]
  | depth + 1, node :: rest =>
      if met.contains node.id then .ok [loopMark node.id]
      else do
        let label ← nodeLabel node
        let others ← labels (node.id :: met) depth rest
        return label :: others

variable {t : Trail} {met : List String} {depth : Nat} {node : Node}

theorem labels_nil : labels met depth [] = .ok [] := by
  cases depth <;> rfl

theorem labels_met (met' : node.id ∈ met) (rest : List Node) :
    labels met (depth + 1) (node :: rest) = .ok [loopMark node.id] := by
  rw [labels, if_pos (by simpa using met')]

theorem labels_new (unmet : node.id ∉ met) (rest : List Node) :
    labels met (depth + 1) (node :: rest) =
      (nodeLabel node).bind fun label => (labels (node.id :: met) depth rest).map (label :: ·) := by
  rw [labels, if_neg (by simpa using unmet)]
  cases nodeLabel node with
  | error e => rfl
  | ok label => cases labels (node.id :: met) depth rest <;> rfl

theorem branches_chains (each : ∀ node, (t.branch met depth node).map Tree.chains =
    (t.walks met depth node).mapM (labels met depth)) (nodes : List Node) :
    (t.branches met depth nodes).map chainsOf = (nodes.flatMap (t.walks met depth)).mapM (labels met depth) := by
  induction nodes with
  | nil =>
      rw [branches]
      rfl
  | cons node rest ih =>
      rw [branches, List.flatMap_cons, mapM_append_ok, ← each, ← ih]
      cases t.branch met depth node with
      | error e => rfl
      | ok first => cases t.branches met depth rest <;> rfl

theorem branch_chains (t : Trail) (met : List String) (depth : Nat) (node : Node) :
    (t.branch met depth node).map Tree.chains = (t.walks met depth node).mapM (labels met depth) := by
  induction depth generalizing met node with
  | zero =>
      rw [branch]
      rfl
  | succ depth ih =>
      rw [branch, walks, mapM_cons_ok]
      by_cases old : met.contains node.id
      · rw [if_pos old, if_pos old, labels_met (by simpa using old)]
        rfl
      · have unmet : node.id ∉ met := by simpa using old
        have deeper := branches_chains (fun child => ih (node.id :: met) child) (t.next node.id)
        rw [if_neg old, if_neg old, labels_new unmet, List.mapM_map]
        cases named : nodeLabel node with
        | error e => rfl
        | ok label =>
            -- the label of the node stands before all that the deeper walks add
            have onward : labels met (depth + 1) ∘ (node :: ·) =
                fun rest => (labels (node.id :: met) depth rest).map (label :: ·) := by
              funext rest
              rw [Function.comp_apply, labels_new unmet, named]
              rfl
            rw [onward, mapM_map_ok, ← deeper, labels_nil]
            cases t.branches (node.id :: met) depth (t.next node.id) <;> rfl

def Leads (t : Trail) (first second : Node) : Prop := second ∈ t.next first.id

/-- A walk that stops where it meets a node again, and after so many steps. -/
structure Walk (t : Trail) (met : List String) (depth : Nat) (walk : List Node) : Prop where
  chain : walk.IsChain t.Leads
  short : walk.length ≤ depth + 1
  distinct : (walk.dropLast.map (·.id)).Nodup
  unmet : ∀ node ∈ walk.dropLast, node.id ∉ met

theorem walk_single (t : Trail) (met : List String) (depth : Nat) (node : Node) : Walk t met depth [node] :=
  ⟨.singleton node, by simp, by simp, by simp⟩

theorem walk_cons {next : Node} {rest : List Node} :
    Walk t met (depth + 1) (node :: next :: rest) ↔
      node.id ∉ met ∧ t.Leads node next ∧ Walk t (node.id :: met) depth (next :: rest) := by
  constructor
  · rintro ⟨chain, short, distinct, unmet⟩
    rw [List.isChain_cons_cons] at chain
    rw [List.dropLast_cons_cons, List.map_cons, List.nodup_cons] at distinct
    rw [List.dropLast_cons_cons, List.forall_mem_cons] at unmet
    refine ⟨unmet.1, chain.1, chain.2, by simpa using short, distinct.2, fun other member => ?_⟩
    rw [List.mem_cons, not_or]
    exact ⟨fun same => distinct.1 (List.mem_map.mpr ⟨other, member, same⟩), unmet.2 other member⟩
  · rintro ⟨new, leads, chain, short, distinct, unmet⟩
    simp only [List.mem_cons, not_or] at unmet
    refine ⟨List.isChain_cons_cons.mpr ⟨leads, chain⟩, by simpa using short, ?_, ?_⟩
    · rw [List.dropLast_cons_cons, List.map_cons, List.nodup_cons]
      refine ⟨fun again => ?_, distinct⟩
      obtain ⟨other, member, same⟩ := List.mem_map.mp again
      exact (unmet other member).1 same
    · rw [List.dropLast_cons_cons, List.forall_mem_cons]
      exact ⟨new, fun other member => (unmet other member).2⟩

theorem mem_walks_succ {walk : List Node} :
    walk ∈ t.walks met (depth + 1) node ↔ walk = [node] ∨ node.id ∉ met ∧
      ∃ next, t.Leads node next ∧ ∃ rest ∈ t.walks (node.id :: met) depth next, walk = node :: rest := by
  rw [walks, List.mem_cons]
  refine or_congr_right ?_
  by_cases old : node.id ∈ met
  · simp [old]
  · rw [if_neg (by simpa using old), List.mem_map]
    simp only [old, not_false_eq_true, true_and, List.mem_flatMap]
    constructor
    · rintro ⟨rest, ⟨next, leads, member⟩, rfl⟩
      exact ⟨next, leads, rest, member, rfl⟩
    · rintro ⟨next, leads, rest, member, rfl⟩
      exact ⟨rest, ⟨next, leads, member⟩, rfl⟩

theorem mem_walks {walk : List Node} :
    walk ∈ t.walks met depth node ↔ walk.head? = some node ∧ Walk t met depth walk := by
  induction depth generalizing met node walk with
  | zero =>
      rw [walks, List.mem_singleton]
      constructor
      · rintro rfl
        exact ⟨rfl, t.walk_single met 0 node⟩
      · rintro ⟨begins, walked⟩
        have short := walked.short
        cases walk with
        | nil => cases begins
        | cons first rest =>
            obtain rfl := Option.some.inj begins
            rw [List.length_cons] at short
            rw [List.length_eq_zero_iff.mp (by omega : rest.length = 0)]
  | succ depth ih =>
      rw [mem_walks_succ]
      constructor
      · rintro (rfl | ⟨new, next, leads, rest, member, rfl⟩)
        · exact ⟨rfl, t.walk_single met _ node⟩
        · obtain ⟨begins, walked⟩ := ih.mp member
          obtain ⟨later, rfl⟩ := List.head?_eq_some_iff.mp begins
          exact ⟨rfl, walk_cons.mpr ⟨new, leads, walked⟩⟩
      · rintro ⟨begins, walked⟩
        obtain ⟨rest, rfl⟩ := List.head?_eq_some_iff.mp begins
        cases rest with
        | nil => exact Or.inl rfl
        | cons next later =>
            obtain ⟨new, leads, walked⟩ := walk_cons.mp walked
            exact Or.inr ⟨new, next, leads, _, ih.mpr ⟨rfl, walked⟩, rfl⟩

def ending (met : List String) (depth : Nat) (front : List Node) (last : Node) : Except Overflow String :=
  if front.length = depth then .ok depthMark
  else if last.id ∈ met ++ front.map (·.id) then .ok (loopMark last.id)
  else nodeLabel last

theorem drawn_ending {front : List Node} {last : Node}
    (label : front.length ≠ depth → last.id ∉ met ++ front.map (·.id) → Drawable last) :
    Drawn (ending met depth front last) := by
  unfold ending
  split
  next => exact drawn_ok _
  next room =>
    split
    next => exact drawn_ok _
    next new => exact (drawn_nodeLabel last).mpr (label room new)

theorem labels_concat {front : List Node} {last : Node} (unmet : ∀ node ∈ front, node.id ∉ met)
    (distinct : (front.map (·.id)).Nodup) (short : front.length ≤ depth) :
    labels met depth (front ++ [last]) =
      (front.mapM nodeLabel).bind fun names => (ending met depth front last).map (names ++ [·]) := by
  induction front generalizing met depth with
  | nil =>
      cases depth with
      | zero => rfl
      | succ depth =>
          by_cases old : last.id ∈ met
          · have ends : ending met (depth + 1) [] last = .ok (loopMark last.id) := by simp [ending, old]
            rw [List.nil_append, labels_met old, ends]
            rfl
          · have ends : ending met (depth + 1) [] last = nodeLabel last := by simp [ending, old]
            rw [List.nil_append, labels_new old, ends, labels_nil]
            cases nodeLabel last <;> rfl
  | cons node rest ih =>
      obtain ⟨depth, rfl⟩ : ∃ d, depth = d + 1 := ⟨depth - 1, by simp at short; omega⟩
      rw [List.forall_mem_cons] at unmet
      rw [List.map_cons, List.nodup_cons] at distinct
      have later : ∀ other ∈ rest, other.id ∉ node.id :: met := by
        intro other member
        rw [List.mem_cons, not_or]
        exact ⟨fun same => distinct.1 (List.mem_map.mpr ⟨other, member, same⟩), unmet.2 other member⟩
      have same : ending (node.id :: met) depth rest last = ending met (depth + 1) (node :: rest) last := by
        simp [ending, or_left_comm]
      rw [List.cons_append, labels_new unmet.1, ih later distinct.2 (by simpa using short), same, mapM_cons_ok]
      cases nodeLabel node with
      | error e => rfl
      | ok name =>
          cases rest.mapM nodeLabel with
          | error e => rfl
          | ok names => cases ending met (depth + 1) (node :: rest) last <;> rfl

def roots (t : Trail) : List Node := t.graph.entryNodes.filterMap fun node => Graph.nodeWithId? t.shown node.id

def allWalks (t : Trail) (depth : Nat) : List (List Node) := t.roots.flatMap (t.walks [] depth)

/-- Distinct shown nodes from an entry node along the edges. -/
structure Path (t : Trail) (path : List Node) : Prop where
  begins : ∃ root ∈ t.roots, path.head? = some root
  chain : path.IsChain t.Leads
  distinct : (path.map (·.id)).Nodup

theorem mem_allWalks {walk : List Node} :
    walk ∈ t.allWalks depth ↔ (∃ root ∈ t.roots, walk.head? = some root) ∧ Walk t [] depth walk := by
  simp only [allWalks, List.mem_flatMap, mem_walks]
  constructor
  · rintro ⟨root, member, begins, walked⟩
    exact ⟨⟨root, member, begins⟩, walked⟩
  · rintro ⟨⟨root, member, begins⟩, walked⟩
    exact ⟨root, member, begins, walked⟩

theorem split_last {walk : List Node} (member : walk ∈ t.allWalks depth) : ∃ front last, walk = front ++ [last] := by
  obtain ⟨⟨root, _, begins⟩, _⟩ := mem_allWalks.mp member
  have some : walk ≠ [] := by rintro rfl; cases begins
  exact ⟨walk.dropLast, walk.getLast some, (List.dropLast_append_getLast some).symm⟩

/-- A walk before its last node is a path. -/
theorem path_of_walk {front : List Node} {last : Node} (member : front ++ [last] ∈ t.allWalks depth) :
    (front = [] ∨ t.Path front) ∧ (last.id ∉ front.map (·.id) → t.Path (front ++ [last])) ∧ front.length ≤ depth := by
  obtain ⟨⟨root, entry, begins⟩, walked⟩ := mem_allWalks.mp member
  have distinct := walked.distinct
  have short := walked.short
  rw [List.dropLast_concat] at distinct
  refine ⟨?_, fun new => ⟨⟨root, entry, begins⟩, walked.chain, ?_⟩, by simpa using short⟩
  · cases front with
    | nil => exact Or.inl rfl
    | cons first rest => exact Or.inr ⟨⟨root, entry, begins⟩, walked.chain.left_of_append, distinct⟩
  · rw [List.map_append, List.map_singleton, List.nodup_append_comm]
    exact List.nodup_cons.mpr ⟨new, distinct⟩

theorem labels_walk {front : List Node} {last : Node} (member : front ++ [last] ∈ t.allWalks depth) :
    labels [] depth (front ++ [last]) =
      (front.mapM nodeLabel).bind fun names => (ending [] depth front last).map (names ++ [·]) := by
  have distinct := (mem_allWalks.mp member).2.distinct
  rw [List.dropLast_concat] at distinct
  exact labels_concat (fun _ _ => List.not_mem_nil) distinct (path_of_walk member).2.2

theorem walk_of_path {path : List Node} (leads : t.Path path) (short : path.length ≤ depth + 1) :
    path ∈ t.allWalks depth := by
  refine mem_allWalks.mpr ⟨leads.begins, leads.chain, short, ?_, fun _ _ => List.not_mem_nil⟩
  exact leads.distinct.sublist ((List.dropLast_sublist path).map _)

theorem labels_path {path : List Node} (leads : t.Path path) (short : path.length ≤ depth) :
    labels [] depth path = path.mapM nodeLabel := by
  have member : path ∈ t.allWalks depth := walk_of_path leads (by omega)
  obtain ⟨front, last, rfl⟩ := split_last member
  have distinct := leads.distinct
  rw [List.map_append, List.map_singleton, List.nodup_append_comm] at distinct
  rw [List.length_append, List.length_singleton] at short
  have ends : ending [] depth front last = nodeLabel last := by
    rw [ending, if_neg (by omega), if_neg (by simpa using (List.nodup_cons.mp distinct).1)]
  rw [labels_walk member, ends, mapM_concat_ok]

theorem roots_shown {root : Node} (member : root ∈ t.roots) : root ∈ t.shown := by
  obtain ⟨_, _, found⟩ := List.mem_filterMap.mp member
  exact (nodeWithId?_some found).1

theorem Leads.shown {first second : Node} (leads : t.Leads first second) : second ∈ t.shown := by
  obtain ⟨_, _, found⟩ := List.mem_filterMap.mp leads
  exact (nodeWithId?_some found).1

theorem chain_shown {path : List Node} (begins : ∃ root ∈ t.roots, path.head? = some root)
    (chain : path.IsChain t.Leads) : ∀ node ∈ path, node ∈ t.shown := by
  obtain ⟨root, entry, begins⟩ := begins
  obtain ⟨rest, rfl⟩ := List.head?_eq_some_iff.mp begins
  exact chain.induction (· ∈ t.shown) _ (fun _ _ leads _ => leads.shown) fun _ => roots_shown entry

theorem Path.shown {path : List Node} (leads : t.Path path) : ∀ node ∈ path, node ∈ t.shown :=
  chain_shown leads.begins leads.chain

theorem Path.length_le {path : List Node} (leads : t.Path path) : path.length ≤ t.shown.length := by
  have within : path.map (·.id) ⊆ t.shown.map (·.id) := List.map_subset _ leads.shown
  simpa using (leads.distinct.subperm within).length_le

/-- The labels of distinct nodes on a path, and a mark at the end where no level is left or a node comes back. -/
inductive Chain (t : Trail) (depth : Nat) : List String → Prop
  | path {path : List Node} {names : List String} (leads : t.Path path) (short : path.length ≤ depth)
      (named : path.mapM nodeLabel = .ok names) : Chain t depth names
  | deep {front : List Node} {names : List String} {beyond : Node} (leads : front = [] ∨ t.Path front)
      (full : front.length = depth) (goesOn : (front ++ [beyond]).IsChain t.Leads)
      (named : front.mapM nodeLabel = .ok names) : Chain t depth (names ++ [depthMark])
  | loop {front : List Node} {names : List String} {again : Node} (leads : t.Path front)
      (short : front.length < depth) (met : again.id ∈ front.map (·.id))
      (returns : (front ++ [again]).IsChain t.Leads) (named : front.mapM nodeLabel = .ok names) :
      Chain t depth (names ++ [loopMark again.id])

theorem chain_of_walk {walk : List Node} {chain : List String} (member : walk ∈ t.allWalks depth)
    (drawn : labels [] depth walk = .ok chain) : t.Chain depth chain := by
  obtain ⟨front, last, rfl⟩ := split_last member
  obtain ⟨before, whole, short⟩ := path_of_walk member
  rw [labels_walk member] at drawn
  cases named : front.mapM nodeLabel with
  | error e => rw [named] at drawn; cases drawn
  | ok names =>
      rw [named] at drawn
      by_cases full : front.length = depth
      · rw [ending, if_pos full] at drawn
        cases drawn
        exact .deep before full (mem_allWalks.mp member).2.chain named
      · rw [ending, if_neg full, List.nil_append] at drawn
        by_cases met : last.id ∈ front.map (·.id)
        · rw [if_pos met] at drawn
          cases drawn
          have leads : t.Path front := before.resolve_left fun none => by simp [none] at met
          exact .loop leads (by omega) met (mem_allWalks.mp member).2.chain named
        · rw [if_neg met] at drawn
          have all : (front ++ [last]).mapM nodeLabel = .ok chain := by
            rw [mapM_concat_ok, named]
            exact drawn
          exact .path (whole met) (by rw [List.length_append, List.length_singleton]; omega) all

theorem Chain.length_le {chain : List String} (chained : t.Chain depth chain) :
    chain.length ≤ depth + 1 ∧ chain.length ≤ t.shown.length + 1 := by
  cases chained with
  | path leads short named =>
      have bound := leads.length_le
      have long := length_mapM_ok named
      omega
  | deep leads full _ named =>
      have long := length_mapM_ok named
      rw [List.length_append, List.length_singleton]
      rcases leads with rfl | leads
      · rw [List.length_nil] at long full
        omega
      · have bound := leads.length_le
        omega
  | loop leads short _ _ named =>
      have bound := leads.length_le
      have long := length_mapM_ok named
      rw [List.length_append, List.length_singleton]
      omega

end Trail

section

variable {g : Graph} {shown : List Node}

theorem graphTree_chains (some : Trail.roots ⟨g, shown⟩ ≠ []) (title : String) (depth : Nat) :
    (graphTree g shown title depth).map Tree.underRoot =
      (Trail.allWalks ⟨g, shown⟩ depth).mapM (Trail.labels [] depth) := by
  have rooted : (Trail.roots ⟨g, shown⟩).isEmpty = false := List.isEmpty_eq_false_iff.mpr some
  rw [Trail.allWalks, ← Trail.branches_chains (Trail.branch_chains ⟨g, shown⟩ [] depth), graphTree]
  simp only [Trail.roots] at rooted ⊢
  rw [rooted]
  cases Trail.branches ⟨g, shown⟩ [] depth _ <;> rfl

theorem graphTree_rootless (none : Trail.roots ⟨g, shown⟩ = []) (title : String) (depth : Nat) :
    graphTree g shown title depth = .ok (.branch (styled "bold" (escape title)) [leaf (rootlessNote shown)]) := by
  simp only [Trail.roots] at none
  rw [graphTree, none]
  rfl

theorem graphTree_chain {title : String} {depth : Nat} {tree : Tree}
    (drawn : graphTree g shown title depth = .ok tree) :
    (Trail.roots ⟨g, shown⟩ = [] ∧ tree.underRoot = [[rootlessNote shown]]) ∨
      ∀ chain ∈ tree.underRoot, Trail.Chain ⟨g, shown⟩ depth chain := by
  by_cases none : Trail.roots ⟨g, shown⟩ = []
  · cases (graphTree_rootless none title depth).symm.trans drawn
    exact Or.inl ⟨none, rfl⟩
  · have chains := graphTree_chains none title depth
    rw [drawn] at chains
    refine Or.inr fun chain member => ?_
    obtain ⟨walk, among, labelled⟩ := (mem_mapM_ok chains.symm chain).mp member
    exact Trail.chain_of_walk among labelled

/-- A tree can be drawn if the nodes on the paths of up to `depth` nodes can. -/
theorem drawn_graphTree (title : String) (depth : Nat) :
    Drawn (graphTree g shown title depth) ↔
      ∀ path, Trail.Path ⟨g, shown⟩ path → path.length ≤ depth → ∀ node ∈ path, Drawable node := by
  by_cases none : Trail.roots ⟨g, shown⟩ = []
  · refine iff_of_true ⟨_, graphTree_rootless none title depth⟩ fun path leads => ?_
    obtain ⟨root, entry, _⟩ := leads.begins
    rw [none] at entry
    cases entry
  · rw [← drawn_map Tree.underRoot, graphTree_chains none, drawn_mapM]
    constructor
    · intro drawn path leads short
      have named := drawn path (Trail.walk_of_path leads (by omega))
      rw [Trail.labels_path leads short, drawn_mapM] at named
      exact fun node member => (drawn_nodeLabel node).mp (named node member)
    · intro drawable walk member
      obtain ⟨front, last, rfl⟩ := Trail.split_last member
      obtain ⟨before, whole, short⟩ := Trail.path_of_walk member
      rw [Trail.labels_walk member, drawn_both fun names => drawn_map (names ++ [·]), drawn_mapM]
      constructor
      · intro node among
        have leads := before.resolve_left (List.ne_nil_of_mem among)
        exact (drawn_nodeLabel node).mpr (drawable front leads short node among)
      · refine Trail.drawn_ending fun room new => ?_
        refine drawable _ (whole new) ?_ last (List.mem_append_right _ List.mem_cons_self)
        rw [List.length_append, List.length_singleton]
        omega

end

end WorkflowRuns.Display
