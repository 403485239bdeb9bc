import WorkflowRuns.Graph.Reader
import WorkflowRuns.Proofs.Display.Walks
import WorkflowRuns.Proofs.Graph.Levels
import WorkflowRuns.Proofs.Overlay

/-!
The tree of a valid graph.  Its chains are the directed paths from the nodes that no edge enters, in the order of
the edges, down to a depth.
-/

namespace WorkflowRuns.Display

/-- A directed path of shown nodes from a node that no edge enters. -/
structure EntryPath (g : Graph) (shown path : List Node) : Prop where
  shown : ∀ node ∈ path, node ∈ shown
  begins : ∃ first, path.head? = some first ∧ ∀ id, ¬ g.Points id first.id
  points : (path.map (·.id)).IsChain g.Points

section

variable {g : Graph} {shown path : List Node} {depth : Nat}

theorem nodeWithId?_iff (distinct : (shown.map (·.id)).Nodup) {id : String} {node : Node} :
    Graph.nodeWithId? shown id = some node ↔ node ∈ shown ∧ node.id = id := by
  refine ⟨nodeWithId?_some, ?_⟩
  rintro ⟨member, rfl⟩
  cases found : Graph.nodeWithId? shown node.id with
  | none => simpa using List.find?_eq_none.mp found node (List.mem_reverse.mpr member)
  | some other =>
      obtain ⟨among, same⟩ := nodeWithId?_some found
      rw [List.inj_on_of_nodup_map distinct among member same]

theorem mem_roots (formed : g.WellFormed) (same : shown.map (·.id) = g.nodeIds) {node : Node} :
    node ∈ Trail.roots ⟨g, shown⟩ ↔ node ∈ shown ∧ ∀ id, ¬ g.Points id node.id := by
  have known (member : node ∈ shown) : node.id ∈ g.nodeIds := same ▸ List.mem_map_of_mem member
  simp only [Trail.roots, List.mem_filterMap, nodeWithId?_iff (same ▸ formed.nodes)]
  constructor
  · rintro ⟨entry, among, member, equal⟩
    have entered := Graph.mem_entryNodes.mp (List.mem_map_of_mem (f := (·.id)) among)
    exact ⟨member, equal ▸ entered.2⟩
  · rintro ⟨member, free⟩
    obtain ⟨entry, among, equal⟩ := List.mem_map.mp (Graph.mem_entryNodes.mpr ⟨known member, free⟩)
    exact ⟨entry, among, member, equal.symm⟩

theorem leads_iff (formed : g.WellFormed) (same : shown.map (·.id) = g.nodeIds) {first second : Node} :
    Trail.Leads ⟨g, shown⟩ first second ↔ second ∈ shown ∧ g.Points first.id second.id := by
  simp only [Trail.Leads, Trail.next, List.mem_filterMap, List.mem_filter, nodeWithId?_iff (same ▸ formed.nodes)]
  constructor
  · rintro ⟨edge, ⟨among, starts⟩, member, equal⟩
    simp only [Bool.and_eq_true, decide_eq_true_eq] at starts
    exact ⟨member, edge, among, starts.1, equal.symm⟩
  · rintro ⟨member, edge, among, starts, ends⟩
    have known := (formed.endpoints edge among).1
    exact ⟨edge, ⟨among, by simpa [starts] using starts ▸ known⟩, member, ends.symm⟩

theorem entryPath_iff (formed : g.WellFormed) (same : shown.map (·.id) = g.nodeIds) :
    EntryPath g shown path ↔
      (∃ root ∈ Trail.roots ⟨g, shown⟩, path.head? = some root) ∧ path.IsChain (Trail.Leads ⟨g, shown⟩) := by
  constructor
  · rintro ⟨known, ⟨first, begins, free⟩, points⟩
    refine ⟨⟨first, (mem_roots formed same).mpr ⟨known first (List.mem_of_head? begins), free⟩, begins⟩, ?_⟩
    refine ((List.isChain_map _).mp points).imp_of_mem_imp fun one other _ member arrow => ?_
    exact (leads_iff formed same).mpr ⟨known other member, arrow⟩
  · rintro ⟨begins, chain⟩
    have points : path.IsChain fun one other => g.Points one.id other.id :=
      chain.imp fun _ _ leads => ((leads_iff formed same).mp leads).2
    obtain ⟨root, entry, first⟩ := begins
    exact ⟨Trail.chain_shown ⟨root, entry, first⟩ chain, ⟨root, first, ((mem_roots formed same).mp entry).2⟩,
      (List.isChain_map _).mpr points⟩

theorem EntryPath.toPath (formed : g.WellFormed) (same : shown.map (·.id) = g.nodeIds)
    (entered : EntryPath g shown path) : Trail.Path ⟨g, shown⟩ path := by
  obtain ⟨begins, chain⟩ := (entryPath_iff formed same).mp entered
  exact ⟨begins, chain, formed.acyclic.nodup_of_chain entered.points⟩

theorem mem_allWalks_iff (formed : g.WellFormed) (same : shown.map (·.id) = g.nodeIds) :
    path ∈ Trail.allWalks ⟨g, shown⟩ depth ↔ EntryPath g shown path ∧ path.length ≤ depth + 1 := by
  constructor
  · intro member
    obtain ⟨begins, walked⟩ := Trail.mem_allWalks.mp member
    exact ⟨(entryPath_iff formed same).mpr ⟨begins, walked.chain⟩, walked.short⟩
  · rintro ⟨entered, short⟩
    exact Trail.walk_of_path (entered.toPath formed same) short

theorem EntryPath.concat {last next : Node} (entered : EntryPath g shown path) (ends : path.getLast? = some last)
    (points : g.Points last.id next.id) (member : next ∈ shown) : EntryPath g shown (path ++ [next]) := by
  obtain ⟨known, ⟨first, begins, free⟩, chain⟩ := entered
  refine ⟨?_, ⟨first, by rw [List.head?_append, begins, Option.some_or], free⟩, ?_⟩
  · intro node among
    rcases List.mem_append.mp among with before | only
    · exact known node before
    · exact List.mem_singleton.mp only ▸ member
  · rw [List.map_append, List.map_singleton, List.isChain_append]
    refine ⟨chain, .singleton _, fun id before id' after => ?_⟩
    rw [List.getLast?_map, ends] at before
    cases before
    cases after
    exact points

theorem exists_entryPath (formed : g.WellFormed) (same : shown.map (·.id) = g.nodeIds) {node : Node}
    (member : node ∈ shown) : ∃ path, EntryPath g shown path ∧ path.getLast? = some node := by
  obtain ⟨layers, layered, _⟩ := Graph.levels_of_acyclic formed.acyclic
  have known : node.id ∈ g.nodeIds := same ▸ List.mem_map_of_mem member
  obtain ⟨k, here⟩ := layered.vertex.mp (Or.inl known)
  induction k generalizing node with
  | zero =>
      have free := (Graph.mem_free.mp ((layered.first node.id).mp here)).2
      exact ⟨[node], ⟨by simpa using member, ⟨node, rfl, free⟩, .singleton _⟩, rfl⟩
  | succ k ih =>
      obtain ⟨id, arrow, there⟩ := layered.above node.id k here
      have points := Graph.mem_arrows.mp arrow
      obtain ⟨previous, inside, rfl⟩ : ∃ previous ∈ shown, previous.id = id := by
        obtain ⟨edge, among, rfl, _⟩ := points
        exact List.mem_map.mp (same ▸ (formed.endpoints edge among).1)
      obtain ⟨path, entered, ends⟩ := ih inside (same ▸ List.mem_map_of_mem inside) there
      exact ⟨path ++ [node], entered.concat ends points member, List.getLast?_concat⟩

def edgePlace (g : Graph) (source target : String) : Nat :=
  (g.edges.map fun edge => (edge.source, edge.target)).idxOf (source, target)

def steps (g : Graph) : List String → List Nat
  | first :: second :: rest => edgePlace g first second :: steps g (second :: rest)
  | _ => []

def places (g : Graph) (path : List Node) : List Nat :=
  (path.head?.map fun first => g.nodeIds.idxOf first.id).toList ++ steps g (path.map (·.id))

theorem pairwise_idxOf {α : Type} [BEq α] [LawfulBEq α] {xs : List α} (distinct : xs.Nodup) :
    xs.Pairwise fun x y => xs.idxOf x < xs.idxOf y := by
  rw [List.pairwise_iff_getElem]
  intro i j _ _ before
  rwa [distinct.idxOf_getElem, distinct.idxOf_getElem]

theorem pairwise_roots (formed : g.WellFormed) :
    (Trail.roots ⟨g, shown⟩).Pairwise fun one other => g.nodeIds.idxOf one.id < g.nodeIds.idxOf other.id := by
  have nodes : g.entryNodes.Pairwise fun one other => g.nodeIds.idxOf one.id < g.nodeIds.idxOf other.id :=
    (List.pairwise_map.mp (pairwise_idxOf formed.nodes)).sublist List.filter_sublist
  refine List.pairwise_filterMap.mpr (nodes.imp fun {one other} before first found second found' => ?_)
  rwa [(nodeWithId?_some found).2, (nodeWithId?_some found').2]

theorem pairwise_next (formed : g.WellFormed) (id : String) :
    (Trail.next ⟨g, shown⟩ id).Pairwise fun one other => edgePlace g id one.id < edgePlace g id other.id := by
  have edges : g.edges.Pairwise fun one other =>
      edgePlace g one.source one.target < edgePlace g other.source other.target := by
    have pairs := pairwise_idxOf formed.pairs
    rw [List.pairwise_map] at pairs
    exact pairs
  refine List.pairwise_filterMap.mpr ((edges.sublist List.filter_sublist).imp_of_mem ?_)
  intro one other among among' before first found second found'
  simp only [List.mem_filter, Bool.and_eq_true, decide_eq_true_eq] at among among'
  rw [among.2.1, among'.2.1] at before
  rwa [(nodeWithId?_some found).2, (nodeWithId?_some found').2]

theorem steps_walk {t : Trail} {met : List String} {child : Node} {walk : List Node}
    (member : walk ∈ t.walks met depth child) (node : Node) :
    steps g ((node :: walk).map (·.id)) = edgePlace g node.id child.id :: steps g (walk.map (·.id)) := by
  obtain ⟨rest, rfl⟩ := List.head?_eq_some_iff.mp (Trail.mem_walks.mp member).1
  rfl

theorem pairwise_walks (formed : g.WellFormed) (met : List String) (depth : Nat) (node : Node) :
    (Trail.walks ⟨g, shown⟩ met depth node).Pairwise fun one other =>
      steps g (one.map (·.id)) < steps g (other.map (·.id)) := by
  -- the node alone comes before its longer walks, and of those the first step decides, then the rest
  induction depth generalizing met node with
  | zero => exact List.pairwise_singleton _ _
  | succ depth ih =>
      rw [Trail.walks]
      by_cases old : met.contains node.id
      · rw [if_pos old]
        exact List.pairwise_singleton _ _
      · rw [if_neg old]
        refine List.pairwise_cons.mpr ⟨?_, List.pairwise_map.mpr (List.pairwise_flatMap.mpr ⟨?_, ?_⟩)⟩
        · intro longer member
          obtain ⟨walk, among, rfl⟩ := List.mem_map.mp member
          obtain ⟨child, _, inside⟩ := List.mem_flatMap.mp among
          rw [steps_walk inside]
          exact List.nil_lt_cons _ _
        · refine fun child _ => (ih (node.id :: met) child).imp_of_mem fun {one other} first second before => ?_
          rw [steps_walk first, steps_walk second]
          exact List.cons_lt_cons_iff.mpr (Or.inr ⟨rfl, before⟩)
        · refine (pairwise_next formed node.id).imp fun {child other} before one first two second => ?_
          rw [steps_walk first, steps_walk second]
          exact List.cons_lt_cons_iff.mpr (Or.inl before)

theorem places_walk {t : Trail} {met : List String} {root : Node} {walk : List Node}
    (member : walk ∈ t.walks met depth root) :
    places g walk = g.nodeIds.idxOf root.id :: steps g (walk.map (·.id)) := by
  rw [places, (Trail.mem_walks.mp member).1]
  rfl

theorem pairwise_allWalks (formed : g.WellFormed) (depth : Nat) :
    (Trail.allWalks ⟨g, shown⟩ depth).Pairwise fun one other => places g one < places g other := by
  refine List.pairwise_flatMap.mpr ⟨fun root _ => ?_, ?_⟩
  · refine (pairwise_walks formed [] depth root).imp_of_mem fun {one other} first second before => ?_
    rw [places_walk first, places_walk second]
    exact List.cons_lt_cons_iff.mpr (Or.inr ⟨rfl, before⟩)
  · refine (pairwise_roots formed).imp fun {root other} before one first two second => ?_
    rw [places_walk first, places_walk second]
    exact List.cons_lt_cons_iff.mpr (Or.inl before)

/-- The labels of the first nodes, and a mark for a node past the last level. -/
def pathLabels (depth : Nat) (path : List Node) : Except Overflow (List String) :=
  ((path.take depth).mapM nodeLabel).map fun names => if path.length ≤ depth then names else names ++ [depthMark]

theorem labels_entryPath (formed : g.WellFormed) (same : shown.map (·.id) = g.nodeIds)
    (entered : EntryPath g shown path) (short : path.length ≤ depth + 1) :
    Trail.labels [] depth path = pathLabels depth path := by
  have leads := entered.toPath formed same
  by_cases within : path.length ≤ depth
  · simp only [pathLabels, List.take_of_length_le within, within, if_true]
    rw [Trail.labels_path leads within]
    cases path.mapM nodeLabel <;> rfl
  · have member := Trail.walk_of_path leads short
    obtain ⟨front, last, rfl⟩ := Trail.split_last member
    rw [List.length_append, List.length_singleton] at short within
    have full : front.length = depth := by omega
    have ends : Trail.ending [] depth front last = .ok depthMark := if_pos full
    have past : ¬ (front ++ [last]).length ≤ depth := by simpa using within
    rw [Trail.labels_walk member, ends, pathLabels, List.take_left' full]
    simp only [past, if_false]
    cases front.mapM nodeLabel <;> rfl

end

def openingTag (text : String) : List Char := text.toList.takeWhile (· ≠ ']')

theorem openingTag_styled {style : String} (plain : ']' ∉ style.toList) (body rest : String) :
    openingTag (styled style body ++ rest) = '[' :: style.toList := by
  have inside : ∀ c ∈ "[".toList ++ style.toList, decide (c ≠ ']') = true := by
    intro c member
    rcases List.mem_append.mp member with bracket | letter
    · rw [List.mem_singleton.mp bracket]
      decide
    · exact decide_eq_true fun closes => plain (closes ▸ letter)
  have split : (styled style body ++ rest).toList =
      ("[".toList ++ style.toList) ++ ("]".toList ++ (body ++ "[/]" ++ rest).toList) := by
    simp only [styled, String.toList_append, List.append_assoc]
  rw [openingTag, split, List.takeWhile_append_of_pos inside]
  exact List.append_nil _

def nodeStyle (node : Node) : String :=
  if node.status = .pending then kindColor node.kind else statusColor node.status.word

theorem nodeLabel_styled {node : Node} {label : String} (named : nodeLabel node = .ok label) :
    ∃ name rest, label = styled (nodeStyle node) name ++ rest := by
  obtain ⟨summary, _, named⟩ := bind_ok_iff.mp named
  unfold nodeStyle
  by_cases pending : node.status = .pending
  · rw [if_pos pending] at named ⊢
    cases named
    exact ⟨_, _, rfl⟩
  · rw [if_neg pending] at named ⊢
    cases took : node.duration with
    | none =>
        rw [took] at named
        cases named
        exact ⟨_, _, String.append_assoc ..⟩
    | some n =>
        rw [took] at named
        obtain ⟨text, _, named⟩ := bind_ok_iff.mp named
        cases named
        exact ⟨_, _, String.append_assoc ..⟩

theorem nodeStyle_unmarked (node : Node) :
    ']' ∉ (nodeStyle node).toList ∧ nodeStyle node ≠ "dim" ∧ nodeStyle node ≠ "red" := by
  unfold nodeStyle
  cases node.status <;> cases node.kind <;> decide +kernel

theorem nodeLabel_ne_mark {node : Node} {label : String} (named : nodeLabel node = .ok label) {style body : String}
    (mark : style = "dim" ∨ style = "red") : label ≠ styled style body := by
  obtain ⟨name, rest, rfl⟩ := nodeLabel_styled named
  obtain ⟨plain, notDim, notRed⟩ := nodeStyle_unmarked node
  have simple : ']' ∉ style.toList := by rcases mark with rfl | rfl <;> decide
  intro same
  have tags := congrArg openingTag same
  rw [← String.append_empty (s := styled style body), openingTag_styled plain, openingTag_styled simple] at tags
  have equal : nodeStyle node = style := String.toList_inj.mp (List.cons.inj tags).2
  exact mark.elim (fun dim => notDim (equal.trans dim)) fun red => notRed (equal.trans red)

theorem nodeLabel_unmarked {node : Node} {label : String} (named : nodeLabel node = .ok label) (shown : List Node) :
    (∀ id, label ≠ loopMark id) ∧ label ≠ rootlessNote shown := by
  refine ⟨fun id => nodeLabel_ne_mark named (Or.inl rfl), ?_⟩
  unfold rootlessNote
  split
  next => exact nodeLabel_ne_mark named (Or.inl rfl)
  next => exact nodeLabel_ne_mark named (Or.inr rfl)

theorem depthMark_unmarked (shown : List Node) :
    (∀ id, depthMark ≠ loopMark id) ∧ depthMark ≠ rootlessNote shown := by
  constructor
  · intro id same
    have sixth := congrArg (fun s : String => s.toList[5]?) same
    simp only [depthMark, loopMark, styled, String.toList_append, List.append_assoc] at sixth
    have same : '.' = '↩' := Option.some.inj sixth
    exact absurd same (by decide)
  · unfold rootlessNote
    split <;> decide

section

variable {g : Graph} {shown : List Node} {title : String} {depth : Nat}

theorem mem_pathLabels {path : List Node} {chain : List String} (named : pathLabels depth path = .ok chain)
    {label : String} (member : label ∈ chain) : label = depthMark ∨ ∃ node, nodeLabel node = .ok label := by
  obtain ⟨names, found, rfl⟩ := map_ok_iff.mp named
  have known (among : label ∈ names) : ∃ node, nodeLabel node = .ok label := by
    obtain ⟨node, _, same⟩ := (mem_mapM_ok found label).mp among
    exact ⟨node, same⟩
  split at member
  next => exact Or.inr (known member)
  next =>
    rcases List.mem_append.mp member with among | mark
    · exact Or.inr (known among)
    · exact Or.inl (List.mem_singleton.mp mark)

theorem depthMark_mem_iff {path : List Node} {chain : List String} (named : pathLabels depth path = .ok chain) :
    depthMark ∈ chain ↔ depth < path.length := by
  obtain ⟨names, found, rfl⟩ := map_ok_iff.mp named
  have never : depthMark ∉ names := by
    intro among
    obtain ⟨node, _, labelled⟩ := (mem_mapM_ok found depthMark).mp among
    exact nodeLabel_ne_mark labelled (Or.inl rfl) rfl
  by_cases short : path.length ≤ depth
  · rw [if_pos short]
    exact iff_of_false never (by omega)
  · rw [if_neg short]
    exact iff_of_true (List.mem_append_right _ List.mem_cons_self) (by omega)

theorem getLast_pathLabels {path : List Node} {node : Node} {chain : List String} (short : path.length ≤ depth)
    (ends : path.getLast? = some node) (named : pathLabels depth path = .ok chain) :
    ∃ label, nodeLabel node = .ok label ∧ chain.getLast? = some label := by
  obtain ⟨names, found, rfl⟩ := map_ok_iff.mp named
  obtain ⟨front, rfl⟩ := List.getLast?_eq_some_iff.mp ends
  rw [List.take_of_length_le short, mapM_concat_ok] at found
  obtain ⟨before, _, found⟩ := bind_ok_iff.mp found
  obtain ⟨label, last, rfl⟩ := map_ok_iff.mp found
  exact ⟨label, last, by rw [if_pos short, List.getLast?_concat]⟩

/-- The chains of the tree are the labels of these paths. -/
structure Shows (g : Graph) (shown : List Node) (title : String) (depth : Nat) (paths : List (List Node)) : Prop where
  complete : ∀ path, path ∈ paths ↔ EntryPath g shown path ∧ path.length ≤ depth + 1
  ordered : paths.Pairwise fun one other => places g one < places g other
  chains : (graphTree g shown title depth).map Tree.underRoot = paths.mapM (pathLabels depth)

theorem exists_shows (formed : g.WellFormed) (same : shown.map (·.id) = g.nodeIds) (title : String) (depth : Nat) :
    ∃ paths, Shows g shown title depth paths := by
  refine ⟨_, fun path => mem_allWalks_iff formed same, pairwise_allWalks formed depth, ?_⟩
  have some : Trail.roots ⟨g, shown⟩ ≠ [] := by
    have nodes : shown ≠ [] := by
      rintro rfl
      exact formed.nonempty (List.map_eq_nil_iff.mp same.symm)
    obtain ⟨node, member⟩ := List.exists_mem_of_ne_nil shown nodes
    obtain ⟨path, entered, _⟩ := exists_entryPath formed same member
    obtain ⟨root, entry, _⟩ := (entered.toPath formed same).begins
    exact List.ne_nil_of_mem entry
  rw [graphTree_chains some]
  refine mapM_congr_ok fun path member => ?_
  obtain ⟨entered, short⟩ := (mem_allWalks_iff formed same).mp member
  exact labels_entryPath formed same entered short

/-- The chains of a tree and the paths of the graph answer to each other. -/
theorem Shows.chain_iff {paths : List (List Node)} (showing : Shows g shown title depth paths) {tree : Tree}
    (made : graphTree g shown title depth = .ok tree) (chain : List String) :
    chain ∈ tree.underRoot ↔
      ∃ path, EntryPath g shown path ∧ path.length ≤ depth + 1 ∧ pathLabels depth path = .ok chain := by
  have chains := showing.chains
  rw [made] at chains
  rw [mem_mapM_ok chains.symm]
  simp only [showing.complete, and_assoc]

/-- The tree of a valid graph: its chains are the paths, without marks of a cycle, and no node is left out that a
path of `depth` nodes reaches. -/
structure ValidTree (g : Graph) (shown : List Node) (title : String) (depth : Nat) : Prop where
  paths : ∃ paths, Shows g shown title depth paths
  drawn : Drawn (graphTree g shown title depth) ↔
    ∀ path, EntryPath g shown path → path.length ≤ depth → ∀ node ∈ path, Drawable node
  unmarked : ∀ tree, graphTree g shown title depth = .ok tree → ∀ chain ∈ tree.underRoot, ∀ label ∈ chain,
    (∀ id, label ≠ loopMark id) ∧ label ≠ rootlessNote shown
  marked : ∀ path chain, pathLabels depth path = .ok chain → (depthMark ∈ chain ↔ depth < path.length)
  covered : ∀ tree, graphTree g shown title depth = .ok tree → ∀ path node, EntryPath g shown path →
    path.getLast? = some node → path.length ≤ depth →
      ∃ chain ∈ tree.underRoot, ∃ label, nodeLabel node = .ok label ∧ chain.getLast? = some label
  reached : ∀ node ∈ shown, ∃ path, EntryPath g shown path ∧ path.getLast? = some node ∧ path.length ≤ shown.length

theorem validTree (formed : g.WellFormed) (same : shown.map (·.id) = g.nodeIds) (title : String) (depth : Nat) :
    ValidTree g shown title depth := by
  obtain ⟨paths, showing⟩ := exists_shows formed same title depth
  constructor
  · exact ⟨paths, showing⟩
  · rw [drawn_graphTree]
    constructor
    · exact fun drawable path entered => drawable path (entered.toPath formed same)
    · exact fun drawable path leads => drawable path ((entryPath_iff formed same).mpr ⟨leads.begins, leads.chain⟩)
  · intro tree made chain member label among
    obtain ⟨path, _, _, named⟩ := (showing.chain_iff made chain).mp member
    rcases mem_pathLabels named among with rfl | ⟨node, named⟩
    · exact depthMark_unmarked shown
    · exact nodeLabel_unmarked named shown
  · exact fun path chain named => depthMark_mem_iff named
  · intro tree made path node entered ends short
    have all : Drawn (paths.mapM (pathLabels depth)) :=
      ⟨tree.underRoot, by rw [← showing.chains, made]; rfl⟩
    obtain ⟨chain, named⟩ := (drawn_mapM _ _).mp all path ((showing.complete path).mpr ⟨entered, by omega⟩)
    exact ⟨chain, (showing.chain_iff made chain).mpr ⟨path, entered, by omega, named⟩,
      getLast_pathLabels short ends named⟩
  · intro node member
    obtain ⟨path, entered, ends⟩ := exists_entryPath formed same member
    exact ⟨path, entered, ends, (entered.toPath formed same).length_le⟩

/-- The tree of a valid graph shows its paths.  In the tree of any graph a chain is as long as the depth and the
nodes allow, and no node comes back but in a mark at its end. -/
theorem graphTree_spec (g : Graph) (shown : List Node) (title : String) (depth : Nat) :
    (g.validationErrors = [] → shown.map (·.id) = g.nodeIds → ValidTree g shown title depth) ∧
      (Drawn (graphTree g shown title depth) ↔
        ∀ path, Trail.Path ⟨g, shown⟩ path → path.length ≤ depth → ∀ node ∈ path, Drawable node) ∧
      ∀ tree, graphTree g shown title depth = .ok tree →
        Trail.roots ⟨g, shown⟩ = [] ∧ tree.underRoot = [[rootlessNote shown]] ∨
          ∀ chain ∈ tree.underRoot, Trail.Chain ⟨g, shown⟩ depth chain ∧
            chain.length ≤ depth + 1 ∧ chain.length ≤ shown.length + 1 := by
  refine ⟨fun valid same => ?_, drawn_graphTree title depth, fun tree made => ?_⟩
  · exact validTree (Graph.faults_eq_nil_iff.mp (List.map_eq_nil_iff.mp valid)) same title depth
  · exact (graphTree_chain made).imp id fun chains chain member =>
      ⟨chains chain member, (chains chain member).length_le⟩

end

theorem overlayAll_ids (nodes : List Node) (s : Option Snapshot) :
    (overlayAll nodes s).map (·.id) = nodes.map (·.id) := by
  rw [overlayAll, List.map_map]
  exact List.map_congr_left fun node _ => (node.overlaid s).id

def startingNode (id : String) : Node := ⟨id, .manualStart none [], none, .pending, none, none⟩

def waitingNode (id : String) (duration : Nat) : Node := ⟨id, .wait duration [], none, .pending, none, none⟩

theorem graphTree_spec_forked :
    let g : Graph := ⟨none, [startingNode "a", waitingNode "b" 5, waitingNode "c" 7],
      [⟨"ab", "a", "b", none⟩, ⟨"ac", "a", "c", none⟩, ⟨"bc", "b", "c", none⟩]⟩
    let s : Snapshot := ⟨"run-1", .success, none, none, 0, none,
      [⟨"b", none, .success, 0, 6, [], .null, none, .null⟩], [], none, []⟩
    g.validationErrors = [] ∧ (overlayAll g.nodes (some s)).map (·.id) = g.nodeIds ∧
      ValidTree g (overlayAll g.nodes (some s)) "Workflow" 2 :=
  ⟨by decide +kernel, overlayAll_ids _ _, (graphTree_spec _ _ _ _).1 (by decide +kernel) (overlayAll_ids _ _)⟩

def longWait : Value :=
  .record [(.name "nodes", .list [
    .record [(.name "id", .text "a"), (.name "type", .text "manualStartNode"), (.name "data", .record [])],
    .record [(.name "id", .text "b"), (.name "type", .text "waitingNode"),
      (.name "data", .record [(.name "duration", .int (10 ^ 312))])]]),
    (.name "edges", .list [.record [(.name "id", .text "ab"), (.name "source", .text "a"), (.name "target", .text "b")]])]

/-- The graph is valid, but its tree cannot be drawn. -/
theorem wait_undrawn : ∃ g, Graph.ofEditor longWait = .ok g ∧ g.validationErrors = [] ∧
    graphTree g (overlayAll g.nodes none) "Workflow" standardDepth = .error .duration := by
  refine ⟨⟨none, [startingNode "a", waitingNode "b" (10 ^ 312)], [⟨"ab", "a", "b", none⟩]⟩, ?_, ?_, ?_⟩
  · decide +kernel
  · decide +kernel
  · rw [← not_drawn_iff, ← drawn_map Tree.underRoot, graphTree_chains (by decide +kernel), not_drawn_iff]
    decide +kernel

end WorkflowRuns.Display
