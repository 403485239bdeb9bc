import Mathlib.Data.Fintype.Card
import Mathlib.Data.List.Chain
import Mathlib.Data.List.Sort
import Mathlib.Data.Set.Finite.List
import Mathlib.Data.String.Basic
import Mathlib.Order.WellFounded
import WorkflowRuns.Graph.Levels
import WorkflowRuns.Proofs.Graph.Validation

/-!
The levels of a graph.  There are none exactly if the graph has a cycle; else the number of a vertex's
level is the length of the longest path to it.

The counts of the algorithm are those of the arrows out of vertices that are in no level yet.  So a vertex
is released when the last vertex that points to it has come into a level.
-/

namespace WorkflowRuns.Graph

section Counts

variable {counts : List (String × Nat)} {v : String}

theorem lookup_counted (entry : String × Nat) (rest : List (String × Nat)) (v : String) :
    (entry :: rest).lookup v = if v = entry.1 then some entry.2 else rest.lookup v := by
  rw [List.lookup_cons]
  by_cases here : v = entry.1
  · simp [here]
  · rw [beq_eq_false_iff_ne.mpr here, if_neg here]

theorem lookup_lower (vertex : String) (counts : List (String × Nat)) (v : String) :
    (Entering.lower vertex counts).lookup v = (counts.lookup v).map fun n => if v = vertex then n - 1 else n := by
  induction counts with
  | nil => rfl
  | cons entry rest ih =>
      rw [Entering.lower] at ih ⊢
      rw [List.map_cons, lookup_counted, lookup_counted, ih]
      by_cases here : v = entry.1 <;> simp [here]

theorem keys_lower (vertex : String) (counts : List (String × Nat)) :
    (Entering.lower vertex counts).map (·.1) = counts.map (·.1) := by
  simp [Entering.lower]

theorem lookup_filter_ne (vertex : String) (counts : List (String × Nat)) (v : String) :
    (counts.filter (·.1 ≠ vertex)).lookup v = if v = vertex then none else counts.lookup v := by
  induction counts with
  | nil => exact (ite_self none).symm
  | cons entry rest ih =>
      by_cases dropped : entry.1 = vertex
      · rw [List.filter_cons_of_neg (by simpa using dropped), ih, lookup_counted, dropped]
        by_cases here : v = vertex <;> simp [here]
      · rw [List.filter_cons_of_pos (by simpa using dropped), lookup_counted, lookup_counted, ih]
        by_cases here : v = entry.1 <;> simp [here, dropped]

theorem mem_counted_iff : v ∈ counts.map (·.1) ↔ ∃ n, counts.lookup v = some n := by
  induction counts with
  | nil => simp
  | cons entry rest ih =>
      rw [List.map_cons, List.mem_cons, ih, lookup_counted]
      by_cases here : v = entry.1 <;> simp [here]

end Counts

def less (n taken : Nat) : Option Nat := if n ≤ taken then none else some (n - taken)

theorem less_zero {n : Nat} (positive : 0 < n) : less n 0 = some n := if_neg (by omega)

theorem less_less (n first second : Nat) : (less n first).bind (less · second) = less n (first + second) := by
  unfold less
  by_cases spent : n ≤ first
  · rw [if_pos spent, if_pos (by omega)]
    rfl
  · rw [if_neg spent, Option.bind_some]
    by_cases rest : n ≤ first + second
    · rw [if_pos rest, if_pos (by omega)]
    · rw [if_neg rest, if_neg (by omega), Nat.sub_sub]

namespace Entering

variable {e : Entering}

def remaining (e : Entering) : List String := e.counts.map (·.1) ++ e.free

def Positive (e : Entering) : Prop := ∀ v n, e.counts.lookup v = some n → 0 < n

theorem release_last {vertex : String} {n : Nat} (held : e.counts.lookup vertex = some n) (last : n ≤ 1) :
    e.release vertex = ⟨(lower vertex e.counts).filter (·.1 ≠ vertex), e.free ++ [vertex]⟩ := by
  have zero : (lower vertex e.counts).lookup vertex = some 0 := by
    rw [lookup_lower, held, Option.map_some, if_pos rfl, Nat.sub_eq_zero_of_le last]
  exact if_pos zero

theorem release_more {vertex : String} (more : ∀ n, e.counts.lookup vertex = some n → 1 < n) :
    e.release vertex = ⟨lower vertex e.counts, e.free⟩ := by
  refine if_neg fun zero => ?_
  rw [lookup_lower, Option.map_eq_some_iff] at zero
  obtain ⟨n, held, none⟩ := zero
  have above := more n held
  rw [if_pos rfl] at none
  omega

theorem release_cases (e : Entering) (vertex : String) :
    (∃ n, e.counts.lookup vertex = some n ∧ n ≤ 1) ∨ ∀ n, e.counts.lookup vertex = some n → 1 < n := by
  cases held : e.counts.lookup vertex with
  | none => exact Or.inr nofun
  | some n =>
      rcases Nat.lt_or_ge 1 n with more | last
      · exact Or.inr fun m same => Option.some.inj same ▸ more
      · exact Or.inl ⟨n, rfl, last⟩

theorem lookup_release (e : Entering) (vertex v : String) :
    (e.release vertex).counts.lookup v =
      if v = vertex then (e.counts.lookup v).bind (less · 1) else e.counts.lookup v := by
  rcases e.release_cases vertex with ⟨n, held, last⟩ | more
  · rw [release_last held last, lookup_filter_ne, lookup_lower]
    by_cases here : v = vertex
    · simp [here, held, less, last]
    · simp [here]
  · rw [release_more more, lookup_lower]
    by_cases here : v = vertex
    · subst here
      cases held : e.counts.lookup v with
      | none => simp
      | some n => simp [less, more n held]
    · simp [here]

theorem release_perm (distinct : (e.counts.map (·.1)).Nodup) (vertex : String) :
    (e.release vertex).remaining.Perm e.remaining := by
  rcases e.release_cases vertex with ⟨n, held, last⟩ | more
  · have kept : ((lower vertex e.counts).filter (·.1 ≠ vertex)).map (·.1) = (e.counts.map (·.1)).erase vertex := by
      rw [distinct.erase_eq_filter, ← keys_lower vertex e.counts, List.filter_map]
      exact congrArg _ (List.filter_congr fun entry _ => Bool.eq_iff_iff.mpr (by simp))
    have back := List.perm_cons_erase (mem_counted_iff.mpr ⟨n, held⟩)
    rw [release_last held last, remaining, remaining, kept, ← List.append_assoc]
    refine List.perm_append_singleton vertex _ |>.trans ?_
    exact (back.append_right e.free).symm
  · rw [release_more more, remaining, remaining, keys_lower]

theorem Positive.release (positive : e.Positive) (vertex : String) : (e.release vertex).Positive := by
  intro v n held
  rw [lookup_release] at held
  split at held
  next =>
    obtain ⟨m, _, left⟩ := Option.bind_eq_some_iff.mp held
    unfold less at left
    split at left <;> cases left
    omega
  next => exact positive v n held

theorem lookup_releases (positive : e.Positive) (vertices : List String) (v : String) :
    (vertices.foldl Entering.release e).counts.lookup v = (e.counts.lookup v).bind (less · (vertices.count v)) := by
  induction vertices generalizing e with
  | nil =>
      cases held : e.counts.lookup v with
      | none => simpa using held
      | some n => simpa [held] using (less_zero (positive v n held)).symm
  | cons vertex rest ih =>
      rw [List.foldl_cons, ih (positive.release vertex), lookup_release]
      by_cases here : v = vertex
      · subst here
        simp only [if_true, Option.bind_assoc, less_less, List.count_cons_self, Nat.add_comm 1]
      · rw [if_neg here, List.count_cons_of_ne (Ne.symm here)]

theorem releases_perm (distinct : e.remaining.Nodup) (vertices : List String) :
    (vertices.foldl Entering.release e).remaining.Perm e.remaining := by
  induction vertices generalizing e with
  | nil => exact .refl _
  | cons vertex rest ih =>
      have first := e.release_perm (distinct.sublist (List.sublist_append_left _ _)) vertex
      exact (ih (first.nodup_iff.mpr distinct)).trans first

end Entering

section Arrows

variable {arrows : List Arrow} {v : String}

def into (arrows : List Arrow) (sources : List String) (v : String) : Nat :=
  arrows.countP fun arrow => arrow.2 = v ∧ arrow.1 ∈ sources

theorem into_pos {sources : List String} : 0 < into arrows sources v ↔ ∃ u ∈ sources, (u, v) ∈ arrows := by
  rw [into, List.countP_pos_iff]
  constructor
  · rintro ⟨⟨u, w⟩, member, matching⟩
    obtain ⟨rfl, source⟩ := of_decide_eq_true matching
    exact ⟨u, source, member⟩
  · rintro ⟨u, source, member⟩
    exact ⟨(u, v), member, decide_eq_true ⟨rfl, source⟩⟩

theorem into_perm {sources others : List String} (perm : sources.Perm others) :
    into arrows sources v = into arrows others v := by
  simp only [into, perm.mem_iff]

theorem into_append {sources others : List String} (apart : ∀ u ∈ sources, u ∉ others) :
    into arrows (sources ++ others) v = into arrows sources v + into arrows others v := by
  simp only [into]
  induction arrows with
  | nil => rfl
  | cons arrow rest ih =>
      have once := apart arrow.1
      simp only [List.countP_cons, List.mem_append]
      by_cases target : arrow.2 = v <;> by_cases source : arrow.1 ∈ sources <;>
        by_cases other : arrow.1 ∈ others <;> simp_all <;> omega

theorem count_successors (u : String) : (successors arrows u).count v = into arrows [u] v := by
  rw [successors, List.count, List.countP_map, List.countP_filter, into]
  exact List.countP_congr fun arrow _ => by simp [and_comm]

theorem count_successors_of (sources : List String) (distinct : sources.Nodup) :
    (sources.flatMap (successors arrows)).count v = into arrows sources v := by
  induction sources with
  | nil => simp [into]
  | cons u rest ih =>
      obtain ⟨new, distinct⟩ := List.nodup_cons.mp distinct
      rw [List.flatMap_cons, List.count_append, count_successors, ih distinct]
      exact (into_append (by simpa using new)).symm

end Arrows

/-- The counts are those of the arrows out of the vertices that are in no level yet, and no such arrow
leads to a free vertex. -/
structure Tracks (arrows : List Arrow) (e : Entering) : Prop where
  distinct : e.remaining.Nodup
  counted : ∀ v n, e.counts.lookup v = some n → 0 < n ∧ n = into arrows e.remaining v
  entered : ∀ u v, (u, v) ∈ arrows → u ∈ e.remaining → v ∈ e.counts.map (·.1)

namespace Tracks

variable {arrows : List Arrow} {e : Entering} {u v : String}

theorem positive (tracks : Tracks arrows e) : e.Positive := fun v n held => (tracks.counted v n held).1

theorem apart (tracks : Tracks arrows e) : ∀ u ∈ e.counts.map (·.1), u ∉ e.free :=
  fun _ waiting free => List.disjoint_of_nodup_append tracks.distinct waiting free

theorem next_perm (tracks : Tracks arrows e) : (e.next arrows).remaining.Perm (e.counts.map (·.1)) := by
  have taken := Entering.releases_perm (e := ⟨e.counts, []⟩)
    (by simpa [Entering.remaining] using tracks.distinct.sublist (List.sublist_append_left _ _))
    (e.free.flatMap (successors arrows))
  simpa [Entering.remaining, Entering.next] using taken

theorem lookup_next (tracks : Tracks arrows e) (v : String) :
    (e.next arrows).counts.lookup v = (e.counts.lookup v).bind (less · (into arrows e.free v)) := by
  have distinct := tracks.distinct.sublist (List.sublist_append_right _ _)
  rw [Entering.next, Entering.lookup_releases (e := ⟨e.counts, []⟩) tracks.positive, count_successors_of _ distinct]

theorem counted_next (tracks : Tracks arrows e) {m : Nat} (held : e.counts.lookup v = some m) :
    m = into arrows (e.next arrows).remaining v + into arrows e.free v := by
  rw [(tracks.counted v m held).2, Entering.remaining, into_append tracks.apart, into_perm tracks.next_perm]

theorem next (tracks : Tracks arrows e) : Tracks arrows (e.next arrows) := by
  constructor
  · exact tracks.next_perm.nodup_iff.mpr (tracks.distinct.sublist (List.sublist_append_left _ _))
  · intro v n held
    rw [tracks.lookup_next, Option.bind_eq_some_iff] at held
    obtain ⟨m, before, left⟩ := held
    have all := tracks.counted_next before
    unfold less at left
    split at left <;> cases left
    omega
  · intro u v arrow source
    have waiting : u ∈ e.counts.map (·.1) := tracks.next_perm.mem_iff.mp source
    obtain ⟨m, held⟩ := mem_counted_iff.mp (tracks.entered u v arrow (List.mem_append_left _ waiting))
    have all := tracks.counted_next held
    have more := into_pos.mpr ⟨u, source, arrow⟩
    refine mem_counted_iff.mpr ⟨into arrows (e.next arrows).remaining v, ?_⟩
    rw [tracks.lookup_next, held, Option.bind_some, less, if_neg (by omega), all, Nat.add_sub_cancel]

theorem freed (tracks : Tracks arrows e) (free : v ∈ (e.next arrows).free) : ∃ u ∈ e.free, (u, v) ∈ arrows := by
  have waited : v ∈ e.counts.map (·.1) := tracks.next_perm.mem_iff.mp (List.mem_append_right _ free)
  obtain ⟨m, held⟩ := mem_counted_iff.mp waited
  obtain ⟨positive, all⟩ := tracks.counted v m held
  obtain ⟨u, source, arrow⟩ := into_pos.mp (all ▸ positive)
  rcases List.mem_append.mp source with waiting | free'
  · have again := tracks.next.entered u v arrow (tracks.next_perm.mem_iff.mpr waiting)
    exact absurd free (tracks.next.apart v again)
  · exact ⟨u, free', arrow⟩

end Tracks

def LayerAt (layers : List (List String)) (k : Nat) (v : String) : Prop :=
  ∃ layer, layers[k]? = some layer ∧ v ∈ layer

theorem layerAt_zero {first : List String} {rest : List (List String)} {v : String} :
    LayerAt (first :: rest) 0 v ↔ v ∈ first := by
  simp [LayerAt]

theorem layerAt_succ {first : List String} {rest : List (List String)} {k : Nat} {v : String} :
    LayerAt (first :: rest) (k + 1) v ↔ LayerAt rest k v := by
  simp [LayerAt]

theorem mem_flatten_iff {layers : List (List String)} {v : String} :
    v ∈ layers.flatten ↔ ∃ k, LayerAt layers k v := by
  rw [List.mem_flatten]
  simp only [LayerAt, List.mem_iff_getElem? (l := layers)]
  constructor
  · rintro ⟨layer, ⟨k, here⟩, member⟩
    exact ⟨k, layer, here, member⟩
  · rintro ⟨k, layer, here, member⟩
    exact ⟨layer, ⟨k, here⟩, member⟩

/-- Each vertex comes right after the last of those that point to it. -/
structure Layered (arrows : List Arrow) (e : Entering) (layers : List (List String)) : Prop where
  perm : layers.flatten.Perm e.remaining
  first : ∀ v, LayerAt layers 0 v ↔ v ∈ e.free
  nonempty : [] ∉ layers
  below : ∀ u v k, (u, v) ∈ arrows → u ∈ e.remaining → LayerAt layers k v → ∃ j < k, LayerAt layers j u
  above : ∀ v k, LayerAt layers (k + 1) v → ∃ u, (u, v) ∈ arrows ∧ LayerAt layers k u

theorem Layered.cons {arrows : List Arrow} {e : Entering} {rest : List (List String)} (tracks : Tracks arrows e)
    (some : e.free ≠ []) (layered : Layered arrows (e.next arrows) rest) : Layered arrows e (e.free :: rest) := by
  constructor
  · rw [List.flatten_cons]
    exact ((layered.perm.trans tracks.next_perm).append_left e.free).trans List.perm_append_comm
  · exact fun v => layerAt_zero
  · exact List.not_mem_cons_of_ne_of_not_mem some.symm layered.nonempty
  · intro u v k arrow source here
    have waited := tracks.entered u v arrow source
    cases k with
    | zero => exact absurd (layerAt_zero.mp here) (tracks.apart v waited)
    | succ k =>
        rcases List.mem_append.mp source with waiting | free
        · obtain ⟨j, lower, there⟩ := layered.below u v k arrow (tracks.next_perm.mem_iff.mpr waiting)
            (layerAt_succ.mp here)
          exact ⟨j + 1, by omega, layerAt_succ.mpr there⟩
        · exact ⟨0, by omega, layerAt_zero.mpr free⟩
  · intro v k here
    rw [layerAt_succ] at here
    cases k with
    | zero =>
        obtain ⟨u, free, arrow⟩ := tracks.freed ((layered.first v).mp here)
        exact ⟨u, arrow, layerAt_zero.mpr free⟩
    | succ k =>
        obtain ⟨u, arrow, there⟩ := layered.above v k here
        exact ⟨u, arrow, layerAt_succ.mpr there⟩

theorem layered_of_generations {arrows : List Arrow} {e : Entering} {layers : List (List String)}
    (tracks : Tracks arrows e) (found : generations arrows e = some layers) : Layered arrows e layers := by
  induction e using generations.induct arrows generalizing layers with
  | case1 e none done =>
      rw [generations, if_pos none, if_pos done, Option.some.injEq] at found
      subst found
      constructor
      · simp [Entering.remaining, none, done]
      · simp [LayerAt, none]
      · exact List.not_mem_nil
      · exact fun _ _ _ _ _ ⟨_, here, _⟩ => nomatch here
      · exact fun _ _ ⟨_, here, _⟩ => nomatch here
  | case2 e none left =>
      rw [generations, if_pos none, if_neg left] at found
      cases found
  | case3 e some ih =>
      rw [generations, if_neg some, Option.map_eq_some_iff] at found
      obtain ⟨rest, later, rfl⟩ := found
      exact (ih tracks.next later).cons tracks some

/-- Where the vertices do not become free, each of those left has another that points to it. -/
theorem stuck_of_generations {arrows : List Arrow} {e : Entering} (tracks : Tracks arrows e)
    (fails : generations arrows e = none) :
    ∃ left : List String, left ≠ [] ∧ ∀ v ∈ left, ∃ u ∈ left, (u, v) ∈ arrows := by
  induction e using generations.induct arrows with
  | case1 e none done =>
      rw [generations, if_pos none, if_pos done] at fails
      cases fails
  | case2 e none some =>
      refine ⟨e.counts.map (·.1), by simpa using some, fun v member => ?_⟩
      obtain ⟨n, held⟩ := mem_counted_iff.mp member
      obtain ⟨positive, all⟩ := tracks.counted v n held
      have pointed := into_pos.mp (all ▸ positive)
      rwa [Entering.remaining, none, List.append_nil] at pointed
  | case3 e some ih =>
      rw [generations, if_neg some, Option.map_eq_none_iff] at fails
      exact ih tracks.next fails

theorem nodup_firstOccurrences {α : Type} [DecidableEq α] (xs : List α) : (firstOccurrences xs).Nodup := by
  induction xs with
  | nil => exact List.nodup_nil
  | cons x xs ih => exact List.nodup_cons.mpr ⟨by simp, ih.filter _⟩

def IsVertex (g : Graph) (v : String) : Prop :=
  v ∈ g.nodeIds ∨ ∃ edge ∈ g.edges, v = edge.source ∨ v = edge.target

variable {g : Graph} {u v : String}

theorem mem_vertices : v ∈ g.vertices ↔ g.IsVertex v := by
  simp [vertices, mem_firstOccurrences, IsVertex]

theorem entering_perm (g : Graph) : g.entering.remaining.Perm g.vertices := by
  have split := List.filter_append_perm (fun entry : String × Nat => decide (0 < entry.2))
    (g.vertices.map fun vertex => (vertex, g.arrows.countP (·.2 = vertex)))
  have keys := split.map (·.1)
  simpa [entering, Entering.remaining, List.map_map, Function.comp_def, Nat.pos_iff_ne_zero] using keys

theorem into_entering (g : Graph) (v : String) : into g.arrows g.entering.remaining v = g.arrows.countP (·.2 = v) := by
  refine List.countP_congr fun arrow member => ?_
  have source : arrow.1 ∈ g.entering.remaining := g.entering_perm.mem_iff.mpr (mem_arrows.mp member).vertex
  simp [source]

theorem tracks_entering (g : Graph) : Tracks g.arrows g.entering := by
  constructor
  · exact g.entering_perm.nodup_iff.mpr (nodup_firstOccurrences _)
  · intro v n held
    obtain ⟨before, after, split, _⟩ := List.lookup_eq_some_iff.mp held
    have member : (v, n) ∈ g.entering.counts := by simp [split]
    rw [into_entering]
    simp only [entering, List.mem_filter, List.mem_map, Prod.mk.injEq, decide_eq_true_eq] at member
    obtain ⟨⟨_, _, rfl, rfl⟩, positive⟩ := member
    exact ⟨positive, rfl⟩
  · intro u v arrow _
    have pointed : 0 < g.arrows.countP (·.2 = v) := List.countP_pos_iff.mpr ⟨(u, v), arrow, by simp⟩
    obtain ⟨edge, member, _, rfl⟩ := mem_arrows.mp arrow
    have vertex : edge.target ∈ g.vertices := mem_vertices.mpr (Or.inr ⟨edge, member, Or.inr rfl⟩)
    simp only [entering, List.mem_map, List.mem_filter]
    exact ⟨_, ⟨⟨_, vertex, rfl⟩, by simpa using pointed⟩, rfl⟩

structure PathTo (g : Graph) (v : String) (path : List String) : Prop where
  distinct : path.Nodup
  chain : path.IsChain g.Points
  ends : path.getLast? = some v

/-- The longest directed path to a vertex has so many edges. -/
structure LongestTo (g : Graph) (v : String) (edges : Nat) : Prop where
  path : ∃ path, g.PathTo v path ∧ path.length = edges + 1
  longest : ∀ path, g.PathTo v path → path.length ≤ edges + 1

theorem LongestTo.unique {j k : Nat} (one : g.LongestTo v j) (other : g.LongestTo v k) : j = k := by
  obtain ⟨first, leads, long⟩ := one.path
  obtain ⟨second, leads', long'⟩ := other.path
  have below := one.longest second leads'
  have above := other.longest first leads
  omega

theorem Acyclic.nodup_of_chain (acyclic : g.Acyclic) {path : List String} (chain : path.IsChain g.Points) :
    path.Nodup := by
  have leads : path.Pairwise (Relation.TransGen g.Points) :=
    List.isChain_iff_pairwise.mp (chain.imp fun _ _ points => .single points)
  refine leads.imp fun {u v} leads same => ?_
  subst same
  exact acyclic u leads

/-- Among some vertices of an acyclic graph there is one that none of them points to. -/
theorem Acyclic.source (acyclic : g.Acyclic) {left : List String} (some : left ≠ []) :
    ∃ v ∈ left, ∀ u ∈ left, ¬ g.Points u v := by
  let leads (u v : { v // v ∈ left }) : Prop := Relation.TransGen g.Points u v
  have : IsTrans _ leads := ⟨fun _ _ _ => .trans⟩
  have : Std.Irrefl leads := ⟨fun v => acyclic v⟩
  have founded := Finite.wellFounded_of_trans_of_irrefl leads
  obtain ⟨first, member⟩ := List.exists_mem_of_ne_nil left some
  obtain ⟨⟨v, inside⟩, _, least⟩ := founded.has_min Set.univ ⟨⟨first, member⟩, trivial⟩
  exact ⟨v, inside, fun u member points => least ⟨u, member⟩ trivial (.single points)⟩

section

variable {layers : List (List String)} {k : Nat}

theorem Layered.vertex (layered : Layered g.arrows g.entering layers) :
    g.IsVertex v ↔ ∃ k, LayerAt layers k v := by
  rw [← mem_vertices, ← mem_flatten_iff, layered.perm.mem_iff, g.entering_perm.mem_iff]

theorem Layered.points (layered : Layered g.arrows g.entering layers) (points : g.Points u v)
    (here : LayerAt layers k v) : ∃ j < k, LayerAt layers j u :=
  layered.below u v k (mem_arrows.mpr points) (g.entering_perm.mem_iff.mpr points.vertex) here

theorem Layered.leads (layered : Layered g.arrows g.entering layers) (leads : Relation.TransGen g.Points u v)
    (here : LayerAt layers k v) : ∃ j < k, LayerAt layers j u := by
  induction leads generalizing k with
  | single points => exact layered.points points here
  | tail _ points ih =>
      obtain ⟨j, lower, there⟩ := layered.points points here
      obtain ⟨i, lowest, below⟩ := ih there
      exact ⟨i, by omega, below⟩

theorem Layered.acyclic (layered : Layered g.arrows g.entering layers) : g.Acyclic := by
  intro v loop
  obtain ⟨_, points, _⟩ := Relation.TransGen.head'_iff.mp loop
  obtain ⟨k, here⟩ := layered.vertex.mp (mem_vertices.mp points.vertex)
  induction k using Nat.strongRecOn with
  | ind k ih =>
      obtain ⟨j, lower, there⟩ := layered.leads loop here
      exact ih j lower there

theorem Layered.length_le (layered : Layered g.arrows g.entering layers) {path : List String}
    (chain : path.IsChain g.Points) (ends : path.getLast? = some v) (here : LayerAt layers k v) :
    path.length ≤ k + 1 := by
  induction path using List.reverseRecOn generalizing v k with
  | nil => exact Nat.zero_le _
  | append_singleton before last ih =>
      obtain rfl : last = v := by simpa using ends
      obtain ⟨chain, _, joined⟩ := List.isChain_append.mp chain
      rw [List.length_append, List.length_singleton]
      cases previous : before.getLast? with
      | none => simp [List.getLast?_eq_none_iff.mp previous]
      | some u =>
          obtain ⟨j, lower, there⟩ := layered.points (joined u previous last rfl) here
          have short := ih chain previous there
          omega

theorem Layered.exists_path (layered : Layered g.arrows g.entering layers) (here : LayerAt layers k v) :
    ∃ path : List String, path.IsChain g.Points ∧ path.getLast? = some v ∧ path.length = k + 1 := by
  induction k generalizing v with
  | zero => exact ⟨[v], .singleton v, rfl, rfl⟩
  | succ k ih =>
      obtain ⟨u, arrow, there⟩ := layered.above v k here
      obtain ⟨path, chain, ends, long⟩ := ih there
      refine ⟨path ++ [v], ?_, List.getLast?_concat, by simp [long]⟩
      refine List.isChain_append.mpr ⟨chain, .singleton v, fun last same next equal => ?_⟩
      obtain rfl := Option.some.inj (ends.symm.trans same)
      obtain rfl := Option.some.inj equal
      exact mem_arrows.mp arrow

theorem Layered.longestTo (layered : Layered g.arrows g.entering layers) (here : LayerAt layers k v) :
    g.LongestTo v k := by
  constructor
  · obtain ⟨path, chain, ends, long⟩ := layered.exists_path here
    exact ⟨path, ⟨layered.acyclic.nodup_of_chain chain, chain, ends⟩, long⟩
  · exact fun path leads => layered.length_le leads.chain leads.ends here

end

theorem generations_eq_none_iff : generations g.arrows g.entering = none ↔ ¬ g.Acyclic := by
  constructor
  · intro fails acyclic
    obtain ⟨left, some, pointed⟩ := stuck_of_generations (tracks_entering g) fails
    obtain ⟨v, member, source⟩ := acyclic.source some
    obtain ⟨u, inside, arrow⟩ := pointed v member
    exact source u inside (mem_arrows.mp arrow)
  · intro cyclic
    by_contra found
    obtain ⟨layers, found⟩ := Option.ne_none_iff_exists'.mp found
    exact cyclic (layered_of_generations (tracks_entering g) found).acyclic

theorem inOrder_perm (ids : List String) : (inOrder ids).Perm ids := List.mergeSort_perm ids _

theorem pairwise_inOrder (ids : List String) : (inOrder ids).Pairwise (· ≤ ·) := by
  refine (List.pairwise_mergeSort ?_ ?_ ids).imp of_decide_eq_true
  · exact fun a b c first second => decide_eq_true (String.le_trans (of_decide_eq_true first) (of_decide_eq_true second))
  · intro a b
    rw [Bool.or_eq_true, decide_eq_true_iff, decide_eq_true_iff]
    exact String.le_total a b

theorem strictly_inOrder {ids : List String} (distinct : ids.Nodup) : (inOrder ids).Pairwise (· < ·) :=
  ((pairwise_inOrder ids).and ((inOrder_perm ids).nodup_iff.mpr distinct)).imp fun ⟨below, other⟩ =>
    lt_of_le_of_ne below other

theorem inOrder_congr {ids others : List String} (perm : ids.Perm others) : inOrder ids = inOrder others := by
  refine List.Perm.eq_of_pairwise (fun _ _ _ _ => String.le_antisymm) (pairwise_inOrder ids) (pairwise_inOrder others) ?_
  exact (inOrder_perm ids).trans (perm.trans (inOrder_perm others).symm)

theorem layerAt_inOrder {layers : List (List String)} {k : Nat} :
    LayerAt (layers.map inOrder) k v ↔ LayerAt layers k v := by
  simp [LayerAt, (inOrder_perm _).mem_iff]

theorem flatten_inOrder (layers : List (List String)) : (layers.map inOrder).flatten.Perm layers.flatten := by
  induction layers with
  | nil => exact .refl _
  | cons first rest ih => exact (inOrder_perm first).append ih

/-- Each vertex is in one level, whose number is the length of the longest path to it. -/
structure Layering (g : Graph) (levels : List (List String)) : Prop where
  distinct : levels.flatten.Nodup
  vertices : ∀ v, v ∈ levels.flatten ↔ g.IsVertex v
  longest : ∀ v, g.IsVertex v → ∀ k, LayerAt levels k v ↔ g.LongestTo v k
  later : ∀ u v j k, g.Points u v → LayerAt levels j u → LayerAt levels k v → j < k
  nonempty : [] ∉ levels
  sorted : ∀ level ∈ levels, level.Pairwise (· < ·)

theorem Layered.layering {layers : List (List String)} (layered : Layered g.arrows g.entering layers) :
    g.Layering (layers.map inOrder) := by
  have distinct : layers.flatten.Nodup :=
    (layered.perm.trans g.entering_perm).nodup_iff.mpr (nodup_firstOccurrences _)
  constructor
  · exact (flatten_inOrder layers).nodup_iff.mpr distinct
  · intro v
    rw [(flatten_inOrder layers).mem_iff, mem_flatten_iff, layered.vertex]
  · intro v vertex k
    rw [layerAt_inOrder]
    refine ⟨layered.longestTo, fun longest => ?_⟩
    obtain ⟨j, here⟩ := layered.vertex.mp vertex
    rwa [longest.unique (layered.longestTo here)]
  · intro u v j k points before after
    rw [layerAt_inOrder] at before after
    obtain ⟨i, lower, there⟩ := layered.points points after
    rwa [(layered.longestTo before).unique (layered.longestTo there)]
  · intro empty
    obtain ⟨layer, member, none⟩ := List.mem_map.mp empty
    have same : layer = [] := List.perm_nil.mp (none ▸ (inOrder_perm layer).symm)
    exact layered.nonempty (same ▸ member)
  · intro level member
    obtain ⟨layer, inside, rfl⟩ := List.mem_map.mp member
    exact strictly_inOrder (distinct.sublist (List.sublist_flatten_of_mem inside))

theorem levels_of_cyclic (cyclic : ¬ g.Acyclic) : g.levels = [] := by
  rw [levels, generations_eq_none_iff.mpr cyclic]
  rfl

theorem levels_of_acyclic (acyclic : g.Acyclic) :
    ∃ layers, Layered g.arrows g.entering layers ∧ g.levels = layers.map inOrder := by
  obtain ⟨layers, found⟩ := Option.ne_none_iff_exists'.mp fun fails => generations_eq_none_iff.mp fails acyclic
  refine ⟨layers, layered_of_generations (tracks_entering g) found, ?_⟩
  rw [levels, found]
  rfl

theorem levels_eq_nil_iff (some : g.nodes ≠ []) : g.levels = [] ↔ ¬ g.Acyclic := by
  refine ⟨fun none acyclic => ?_, levels_of_cyclic⟩
  obtain ⟨layers, layered, same⟩ := levels_of_acyclic acyclic
  obtain ⟨node, member⟩ := List.exists_mem_of_ne_nil _ some
  have vertex := (layered.layering.vertices node.id).mpr (Or.inl (List.mem_map_of_mem member))
  rw [← same, none] at vertex
  cases vertex

theorem cycleDetected_iff (some : g.nodes ≠ []) :
    (∃ path, "Cycle detected: " ++ path ∈ g.validationErrors) ↔ ¬ g.Acyclic := by
  rw [← cycle?_eq_none_iff, ← ne_eq, Option.ne_none_iff_exists']
  constructor
  · rintro ⟨path, reported⟩
    obtain ⟨fault, member, same⟩ := List.mem_map.mp reported
    obtain ⟨ids, rfl⟩ := cyclic_of_initial (by rw [same]; exact initial_append rfl)
    exact ⟨ids, cycle?_of_cyclic member⟩
  · rintro ⟨ids, found⟩
    have reported : GraphFault.cyclic ids ∈ g.faults := by
      rw [faults, if_neg some, found]
      exact List.mem_append_right _ List.mem_cons_self
    exact ⟨_, List.mem_map_of_mem reported⟩

theorem mem_free : v ∈ g.entering.free ↔ g.IsVertex v ∧ ∀ u, ¬ g.Points u v := by
  have counted : v ∈ g.entering.free ↔ v ∈ g.vertices ∧ g.arrows.countP (·.2 = v) = 0 := by
    simp [entering]
  rw [counted, mem_vertices, List.countP_eq_zero]
  refine and_congr_right fun _ => ⟨fun none u points => none (u, v) (mem_arrows.mpr points) (by simp), ?_⟩
  rintro none ⟨u, w⟩ arrow same
  obtain rfl : w = v := of_decide_eq_true same
  exact none u (mem_arrows.mp arrow)

theorem mem_entryNodes : v ∈ g.entryNodes.map (·.id) ↔ v ∈ g.nodeIds ∧ ∀ u, ¬ g.Points u v := by
  simp only [entryNodes, nodeIds, List.mem_map, List.mem_filter, Points]
  constructor
  · rintro ⟨node, ⟨member, none⟩, rfl⟩
    have untouched : ∀ edge ∈ g.edges, edge.target ≠ node.id := by simpa using none
    refine ⟨⟨node, member, rfl⟩, ?_⟩
    rintro _ ⟨edge, inside, _, into⟩
    exact untouched edge inside into
  · rintro ⟨⟨node, member, rfl⟩, none⟩
    have untouched : ∀ edge ∈ g.edges, edge.target ≠ node.id :=
      fun edge inside into => none edge.source ⟨edge, inside, rfl, into⟩
    exact ⟨node, ⟨member, by simpa using untouched⟩, rfl⟩

theorem WellFormed.vertex_iff (formed : g.WellFormed) : g.IsVertex v ↔ v ∈ g.nodeIds := by
  refine ⟨fun vertex => vertex.elim (fun node => node) ?_, Or.inl⟩
  rintro ⟨edge, member, rfl | rfl⟩
  · exact (formed.endpoints edge member).1
  · exact (formed.endpoints edge member).2

theorem WellFormed.head_levels (formed : g.WellFormed) :
    g.levels.head? = some (inOrder (g.entryNodes.map (·.id))) ∧ g.entryNodes ≠ [] := by
  obtain ⟨layers, layered, same⟩ := levels_of_acyclic formed.acyclic
  cases layers with
  | nil => exact absurd formed.acyclic ((levels_eq_nil_iff formed.nonempty).mp same)
  | cons first rest =>
      have distinct : (first ++ rest.flatten).Nodup :=
        (layered.perm.trans g.entering_perm).nodup_iff.mpr (nodup_firstOccurrences _)
      have entries : first.Perm (g.entryNodes.map (·.id)) := by
        refine (List.perm_ext_iff_of_nodup distinct.of_append_left ?_).mpr fun v => ?_
        · exact formed.nodes.sublist (List.filter_sublist.map _)
        · rw [← @layerAt_zero first rest, layered.first, mem_free, mem_entryNodes, formed.vertex_iff]
      rw [same, List.map_cons, List.head?_cons, inOrder_congr entries]
      refine ⟨rfl, fun none => ?_⟩
      rw [none] at entries
      exact layered.nonempty (by simp [List.perm_nil.mp entries])

/-- A graph has levels exactly if it has no cycle, and then they are the layers of longest paths. -/
theorem levels_longest (g : Graph) :
    (¬ g.Acyclic → g.levels = []) ∧
      (g.Acyclic → g.Layering g.levels) ∧
      (g.nodes ≠ [] → (g.levels = [] ↔ ∃ path, "Cycle detected: " ++ path ∈ g.validationErrors)) ∧
      (g.validationErrors = [] →
        g.levels.flatten.Perm g.nodeIds ∧
          g.levels.head? = some (inOrder (g.entryNodes.map (·.id))) ∧ g.entryNodes ≠ []) := by
  refine ⟨levels_of_cyclic, fun acyclic => ?_, fun some => ?_, fun valid => ?_⟩
  · obtain ⟨layers, layered, same⟩ := levels_of_acyclic acyclic
    exact same ▸ layered.layering
  · rw [levels_eq_nil_iff some, cycleDetected_iff some]
  · have formed : g.WellFormed := faults_eq_nil_iff.mp (List.map_eq_nil_iff.mp valid)
    obtain ⟨layers, layered, same⟩ := levels_of_acyclic formed.acyclic
    have layering : g.Layering g.levels := same ▸ layered.layering
    refine ⟨(List.perm_ext_iff_of_nodup layering.distinct formed.nodes).mpr fun v => ?_, formed.head_levels⟩
    rw [layering.vertices, formed.vertex_iff]

end WorkflowRuns.Graph
