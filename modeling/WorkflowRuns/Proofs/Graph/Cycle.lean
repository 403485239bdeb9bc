import Mathlib.Data.List.Chain
import Mathlib.Data.List.Nodup
import Mathlib.Logic.Relation
import WorkflowRuns.Graph.Cycle

/-!
The search for a cycle.  It finds one exactly if there is one, and the vertices that it reports are
distinct and each leads to the next.

The arrows of the search's path are dropped late, so that the path holds more than the stack of the
traversal; but whenever an arrow is followed, it has come down to the stack again.
-/

namespace WorkflowRuns.Graph

def Points (g : Graph) (v w : String) : Prop := ∃ edge ∈ g.edges, edge.source = v ∧ edge.target = w

def Acyclic (g : Graph) : Prop := ∀ v, ¬ Relation.TransGen g.Points v v

/-- Distinct vertices, each of which leads to the next and the last one to the first. -/
def IsCycle (g : Graph) : List String → Prop
  | [] => False
  | first :: rest => (first :: rest).Nodup ∧ List.IsChain g.Points (first :: (rest ++ [first]))

theorem mem_firstOccurrences {α : Type} [DecidableEq α] {x : α} {xs : List α} :
    x ∈ firstOccurrences xs ↔ x ∈ xs := by
  induction xs with
  | nil => rfl
  | cons y ys ih =>
      by_cases same : x = y <;> simp [firstOccurrences, ih, same]

theorem mem_arrows {g : Graph} {v w : String} : (v, w) ∈ g.arrows ↔ g.Points v w := by
  simp [arrows, mem_firstOccurrences, Points]

theorem Points.vertex {g : Graph} {v w : String} (points : g.Points v w) : v ∈ g.vertices := by
  obtain ⟨edge, member, rfl, _⟩ := points
  rw [vertices, mem_firstOccurrences, List.mem_append, List.mem_flatMap]
  exact Or.inr ⟨edge, member, by simp⟩

theorem takeArrow_some {vertex : String} {arrows others : List Arrow} {found : Arrow}
    (taken : takeArrow vertex arrows = some (found, others)) :
    found.1 = vertex ∧ ∀ arrow, arrow ∈ arrows ↔ arrow = found ∨ arrow ∈ others := by
  induction arrows generalizing others with
  | nil => cases taken
  | cons first rest ih =>
      unfold takeArrow at taken
      split at taken
      next here =>
        cases taken
        exact ⟨here, fun arrow => List.mem_cons⟩
      next =>
        obtain ⟨⟨f, o⟩, inner, same⟩ := Option.map_eq_some_iff.mp taken
        cases same
        obtain ⟨tail, split⟩ := ih inner
        refine ⟨tail, fun arrow => ?_⟩
        rw [List.mem_cons, List.mem_cons, split]
        exact or_left_comm

theorem takeArrow_none {vertex : String} {arrows : List Arrow} (none : takeArrow vertex arrows = none) :
    ∀ w, (vertex, w) ∉ arrows := by
  induction arrows with
  | nil => simp
  | cons first rest ih =>
      unfold takeArrow at none
      split at none
      next => cases none
      next other =>
        intro w member
        rcases List.mem_cons.mp member with rfl | later
        · exact other rfl
        · exact ih (Option.map_eq_none_iff.mp none) w later

/-- A walk along arrows through distinct vertices, with its arrows and its vertices, the last ones
first. -/
inductive Walked (arrows : List Arrow) : List Arrow → List String → Prop
  | root (v : String) : Walked arrows [] [v]
  | step {path : List Arrow} {tail head : String} {below : List String}
      (walked : Walked arrows path (tail :: below)) (arrow : (tail, head) ∈ arrows)
      (new : head ∉ tail :: below) : Walked arrows ((tail, head) :: path) (head :: tail :: below)

/-- A walk with one more arrow, which leads back to it. -/
inductive Closed (arrows : List Arrow) : List Arrow → Prop
  | back {path : List Arrow} {tail head : String} {below : List String}
      (walked : Walked arrows path (tail :: below)) (arrow : (tail, head) ∈ arrows)
      (back : head ∈ tail :: below) : Closed arrows ((tail, head) :: path)

section

variable {arrows : List Arrow}

theorem Walked.nodup {path : List Arrow} {active : List String} (walked : Walked arrows path active) :
    active.Nodup := by
  induction walked with
  | root v => exact List.nodup_singleton v
  | step _ _ new ih => exact List.nodup_cons.mpr ⟨new, ih⟩

theorem Walked.chain {path : List Arrow} {active : List String} (walked : Walked arrows path active) :
    active.IsChain fun upper lower => (lower, upper) ∈ arrows := by
  induction walked with
  | root v => exact .singleton v
  | step _ arrow _ ih => exact .cons_cons arrow ih

theorem Walked.tails {path : List Arrow} {tail : String} {below : List String}
    (walked : Walked arrows path (tail :: below)) : path.map (·.1) = below := by
  generalize same : tail :: below = active at walked
  induction walked generalizing tail below with
  | root v =>
      cases same
      rfl
  | step _ _ _ ih =>
      cases same
      rw [List.map_cons, ih rfl]

theorem suffix_of_head {α : Type} {x : α} {xs ys : List α} (distinct : (x :: ys).Nodup)
    (suffix : (x :: xs) <:+ (x :: ys)) : xs = ys := by
  rcases List.suffix_cons_iff.mp suffix with same | inside
  · exact (List.cons.inj same).2
  · exact absurd (inside.subset List.mem_cons_self) (List.nodup_cons.mp distinct).1

theorem Walked.backtrack {path : List Arrow} {top tail : String} {under below : List String}
    (walked : Walked arrows path (top :: under)) (other : tail ≠ top)
    (suffix : (tail :: below) <:+ (top :: under)) :
    ∃ left, Graph.backtrack tail path (top :: under) = (left, tail :: below) ∧
      Walked arrows left (tail :: below) := by
  have inside : (tail :: below) <:+ under := by
    rcases List.suffix_cons_iff.mp suffix with equal | inside
    · exact absurd (List.cons.inj equal).1 other
    · exact inside
  induction path generalizing top under with
  | nil =>
      cases walked
      exact absurd (List.suffix_nil.mp inside) (List.cons_ne_nil _ _)
  | cons popped rest ih =>
      cases walked with
      | @step _ lower _ beneath walked arrow new =>
          have dropped : (top :: lower :: beneath).filter (· ≠ top) = lower :: beneath := by
            rw [List.filter_cons_of_neg (by simp), List.filter_eq_self]
            intro v member
            simpa using fun equal => new (by rwa [← equal])
          cases rest with
          | nil =>
              obtain rfl : [] = beneath := walked.tails
              obtain ⟨rfl, rfl⟩ : tail = lower ∧ below = [] := by
                simpa [List.suffix_cons_iff] using inside
              exact ⟨[], rfl, .root tail⟩
          | cons last rest =>
              have top : last.2 = lower := by
                cases walked
                rfl
              by_cases here : tail = lower
              · subst here
                obtain rfl := suffix_of_head walked.nodup inside
                exact ⟨last :: rest, by simp only [Graph.backtrack, dropped, top, if_true], walked⟩
              · have deeper : (tail :: below) <:+ beneath := by
                  rcases List.suffix_cons_iff.mp inside with equal | deeper
                  · exact absurd (List.cons.inj equal).1 here
                  · exact deeper
                obtain ⟨left, stepped, remains⟩ := ih walked here inside deeper
                refine ⟨left, ?_, remains⟩
                rw [← stepped]
                simp only [Graph.backtrack, dropped, top, if_neg (Ne.symm here)]

def Path.upTo (path : Path) (tail : String) : List Arrow × List String :=
  match path.reached with
  | some reached => if tail = reached then (path.arrows, path.active)
      else Graph.backtrack tail path.arrows path.active
  | none => (path.arrows, path.active)

theorem follow_arrow (explored : List String) (path : Path) (tail head : String) (rest : List Arrow) :
    follow explored path ((tail, head) :: rest) =
      if head ∈ explored then follow explored path rest
      else if head ∈ (path.upTo tail).2 then .inl ((tail, head) :: (path.upTo tail).1)
      else follow explored ⟨(tail, head) :: (path.upTo tail).1, head :: (path.upTo tail).2, head :: path.seen,
        some head⟩ rest := by
  rw [follow]
  rfl

theorem Walked.upTo {path : Path} {tail : String} {below : List String}
    (walked : Walked arrows path.arrows path.active) (reached : path.reached = path.arrows.head?.map (·.2))
    (suffix : (tail :: below) <:+ path.active) :
    ∃ left, path.upTo tail = (left, tail :: below) ∧ Walked arrows left (tail :: below) := by
  obtain ⟨steps, active, seen, top⟩ := path
  simp only at walked reached suffix
  unfold Path.upTo
  cases walked with
  | root v =>
      obtain ⟨rfl, rfl⟩ : tail = v ∧ below = [] := by
        simpa [List.suffix_cons_iff] using suffix
      exact ⟨[], by simp [reached], .root tail⟩
  | @step steps lower top' beneath walked arrow new =>
      have whole : Walked arrows ((lower, top') :: steps) (top' :: lower :: beneath) := .step walked arrow new
      simp only [reached, List.head?_cons, Option.map_some]
      split
      next here =>
        subst here
        obtain rfl := suffix_of_head whole.nodup suffix
        exact ⟨_, rfl, whole⟩
      next other => exact whole.backtrack other suffix

def Grounded (arrows : List Arrow) (v : String) : Prop := Acc (fun w v => (v, w) ∈ arrows) v

/-- What was explored: no walk leads out of it, and none stays in it for ever. -/
structure Surveyed (arrows : List Arrow) (explored : List String) : Prop where
  grounded : ∀ v ∈ explored, Grounded arrows v
  closed : ∀ v w, (v, w) ∈ arrows → v ∈ explored → w ∈ explored

/-- The state of a search: what is left of the arrows and the stack of the traversal, and the path of the
search.  Arrows already taken out of a vertex on the stack lead to what is above it, or to vertices that
are done with. -/
structure Searching (arrows : List Arrow) (explored : List String) (remaining : List Arrow)
    (stack : List String) (path : Path) : Prop where
  walked : Walked arrows path.arrows path.active
  reached : path.reached = path.arrows.head?.map (·.2)
  onPath : stack.filter (· ∉ explored) <:+ path.active
  chain : stack.IsChain fun upper lower => (lower, upper) ∈ arrows
  subset : ∀ arrow ∈ remaining, arrow ∈ arrows
  heads : ∀ v w, (v, w) ∈ arrows → (v, w) ∈ remaining ∨ w ∈ path.seen ∨ w ∈ explored
  tails : ∀ v w, (v, w) ∈ arrows → (v, w) ∈ remaining ∨ v ∈ stack ∨ Grounded arrows v
  above : ∀ upper v lower, stack = upper ++ v :: lower → ∀ w, (v, w) ∈ arrows →
    (v, w) ∈ remaining ∨ w ∈ upper ∨ Grounded arrows w
  seen : ∀ v ∈ path.seen, v ∈ stack ∨ Grounded arrows v ∧ ∀ w, (v, w) ∉ remaining

variable {explored : List String}

theorem searching_start {start : String} (new : start ∉ explored) :
    Searching arrows explored arrows [start] ⟨[], [start], [start], none⟩ := by
  constructor
  · exact .root start
  · rfl
  · simp [new]
  · exact .singleton start
  · exact fun _ member => member
  · exact fun _ _ arrow => Or.inl arrow
  · exact fun _ _ arrow => Or.inl arrow
  · exact fun _ _ _ _ _ arrow => Or.inl arrow
  · exact fun v member => Or.inl member

variable {remaining others : List Arrow} {vertex head : String} {below : List String} {path : Path}

theorem Searching.leave (searching : Searching arrows explored remaining (vertex :: below) path)
    (none : takeArrow vertex remaining = none) : Searching arrows explored remaining below path := by
  have spent := takeArrow_none none
  have grounded : Grounded arrows vertex := by
    refine Acc.intro vertex fun w arrow => ?_
    rcases searching.above [] vertex below rfl w arrow with left | never | grounded
    · exact absurd left (spent w)
    · cases never
    · exact grounded
  constructor
  · exact searching.walked
  · exact searching.reached
  · exact (((List.suffix_cons vertex below).filter _).trans searching.onPath)
  · exact searching.chain.tail
  · exact searching.subset
  · exact searching.heads
  · intro v w arrow
    rcases searching.tails v w arrow with left | inside | done
    · exact Or.inl left
    · rcases List.mem_cons.mp inside with rfl | lower
      · exact Or.inr (Or.inr grounded)
      · exact Or.inr (Or.inl lower)
    · exact Or.inr (Or.inr done)
  · intro upper v lower split w arrow
    rcases searching.above (vertex :: upper) v lower (by rw [split]; rfl) w arrow with left | inside | done
    · exact Or.inl left
    · rcases List.mem_cons.mp inside with rfl | higher
      · exact Or.inr (Or.inr grounded)
      · exact Or.inr (Or.inl higher)
    · exact Or.inr (Or.inr done)
  · intro v member
    rcases searching.seen v member with inside | done
    · rcases List.mem_cons.mp inside with rfl | lower
      · exact Or.inr ⟨grounded, spent⟩
      · exact Or.inl lower
    · exact Or.inr done

theorem Searching.enter (searching : Searching arrows explored remaining (vertex :: below) path)
    (taken : takeArrow vertex remaining = some ((vertex, head), others))
    (new : head ∉ vertex :: below ∨ Grounded arrows head) {longer : Path}
    (walked : Walked arrows longer.arrows longer.active)
    (reached : longer.reached = longer.arrows.head?.map (·.2))
    (onPath : (head :: vertex :: below).filter (· ∉ explored) <:+ longer.active)
    (seen : ∀ v, v ∈ longer.seen ↔ v ∈ path.seen ∨ v = head ∧ head ∉ explored) :
    Searching arrows explored others (head :: vertex :: below) longer := by
  have split := (takeArrow_some taken).2
  have arrow : (vertex, head) ∈ arrows := searching.subset _ ((split _).mpr (Or.inl rfl))
  constructor
  · exact walked
  · exact reached
  · exact onPath
  · exact .cons_cons arrow searching.chain
  · exact fun arrow member => searching.subset arrow ((split arrow).mpr (Or.inr member))
  · intro v w member
    rcases searching.heads v w member with left | known | known
    · rcases (split _).mp left with same | other
      · cases same
        by_cases old : head ∈ explored
        · exact Or.inr (Or.inr old)
        · exact Or.inr (Or.inl ((seen head).mpr (Or.inr ⟨rfl, old⟩)))
      · exact Or.inl other
    · exact Or.inr (Or.inl ((seen w).mpr (Or.inl known)))
    · exact Or.inr (Or.inr known)
  · intro v w member
    rcases searching.tails v w member with left | inside | done
    · rcases (split _).mp left with same | other
      · cases same
        exact Or.inr (Or.inl (by simp))
      · exact Or.inl other
    · exact Or.inr (Or.inl (List.mem_cons_of_mem _ inside))
    · exact Or.inr (Or.inr done)
  · intro upper v lower equal w member
    cases upper with
    -- The vertex that is entered was not on the stack, so that its arrows are all left, or it is done with.
    | nil =>
        cases equal
        have fresh : ∀ {q : Prop}, (Grounded arrows head → q) → (head ∉ vertex :: below → q) → q :=
          fun done other => new.elim other done
        refine fresh (fun done => Or.inr (Or.inr (done.inv member))) fun absent => ?_
        rcases searching.tails head w member with left | inside | done
        · rcases (split _).mp left with same | other
          · cases same
            exact absurd List.mem_cons_self absent
          · exact Or.inl other
        · exact absurd inside absent
        · exact Or.inr (Or.inr (done.inv member))
    | cons top upper =>
        obtain ⟨rfl, rest⟩ := List.cons.inj equal
        rcases searching.above upper v lower rest w member with left | higher | done
        · rcases (split _).mp left with same | other
          · cases same
            exact Or.inr (Or.inl List.mem_cons_self)
          · exact Or.inl other
        · exact Or.inr (Or.inl (List.mem_cons_of_mem _ higher))
        · exact Or.inr (Or.inr done)
  · intro v member
    rcases (seen v).mp member with before | ⟨rfl, _⟩
    · rcases searching.seen v before with inside | ⟨done, spent⟩
      · exact Or.inl (List.mem_cons_of_mem _ inside)
      · exact Or.inr ⟨done, fun w other => spent w ((split _).mpr (Or.inr other))⟩
    · exact Or.inl List.mem_cons_self

theorem Searching.skip (surveyed : Surveyed arrows explored)
    (searching : Searching arrows explored remaining (vertex :: below) path)
    (taken : takeArrow vertex remaining = some ((vertex, head), others)) (old : head ∈ explored) :
    Searching arrows explored others (head :: vertex :: below) path := by
  apply searching.enter taken (Or.inr (surveyed.grounded head old)) searching.walked searching.reached
  · rw [List.filter_cons_of_neg (by simpa using old)]
    exact searching.onPath
  · simp [old]

theorem Searching.unexplored (surveyed : Surveyed arrows explored)
    (searching : Searching arrows explored remaining (vertex :: below) path)
    (arrow : (vertex, head) ∈ arrows) (new : head ∉ explored) : ∀ v ∈ vertex :: below, v ∉ explored := by
  have stack := List.IsChain.cons_cons arrow searching.chain
  refine stack.cons_induction (· ∉ explored) _ (fun upper lower arrow above known => ?_) new
  exact above (surveyed.closed lower upper arrow known)

/-- What the search from one vertex comes to: a closed walk, or more that is explored. -/
def Finds (arrows : List Arrow) (explored seen : List String) : List Arrow ⊕ List String → Prop
  | .inl closed => Closed arrows closed
  | .inr found => Surveyed arrows (found ++ explored) ∧ ∀ v ∈ seen, v ∈ found

theorem Finds.mono {seen more : List String} {result : List Arrow ⊕ List String}
    (finds : Finds arrows explored more result) (fewer : ∀ v ∈ seen, v ∈ more) :
    Finds arrows explored seen result := by
  cases result with
  | inl closed => exact finds
  | inr found => exact ⟨finds.1, fun v member => finds.2 v (fewer v member)⟩

theorem Searching.surveyed (surveyed : Surveyed arrows explored)
    (searching : Searching arrows explored remaining [] path) : Surveyed arrows (path.seen ++ explored) := by
  have done : ∀ v ∈ path.seen, Grounded arrows v ∧ ∀ w, (v, w) ∉ remaining := by
    intro v member
    rcases searching.seen v member with never | done
    · cases never
    · exact done
  constructor
  · intro v member
    rcases List.mem_append.mp member with seen | old
    · exact (done v seen).1
    · exact surveyed.grounded v old
  · intro v w arrow member
    rw [List.mem_append] at member ⊢
    rcases member with seen | old
    · exact (searching.heads v w arrow).resolve_left ((done v seen).2 w)
    · exact Or.inr (surveyed.closed v w arrow old)

theorem Searching.finds (surveyed : Surveyed arrows explored) {stack : List String}
    (searching : Searching arrows explored remaining stack path) :
    Finds arrows explored path.seen (follow explored path (traverse remaining stack)) := by
  induction remaining, stack using traverse.induct generalizing path with
  | case1 remaining =>
      rw [traverse, follow]
      exact ⟨searching.surveyed surveyed, fun v member => member⟩
  | case2 remaining vertex below arrow others taken ih =>
      obtain ⟨tail, head⟩ := arrow
      obtain rfl : tail = vertex := (takeArrow_some taken).1
      have arrow : (tail, head) ∈ arrows :=
        searching.subset _ (((takeArrow_some taken).2 _).mpr (Or.inl rfl))
      have traversed : traverse remaining (tail :: below) =
          (tail, head) :: traverse others (head :: tail :: below) := by
        rw [traverse]
        split
        next found => cases taken.symm.trans found; rfl
        next none => cases taken.symm.trans none
      rw [traversed, follow_arrow]
      split
      next old => exact ih (searching.skip surveyed taken old)
      next new =>
        have fresh := searching.unexplored surveyed arrow new
        -- Nothing on the stack is done with, so that the path is taken back to the stack itself.
        have whole : (tail :: below).filter (· ∉ explored) = tail :: below := by
          rw [List.filter_eq_self]
          intro v member
          simpa using fresh v member
        have suffix : (tail :: below) <:+ path.active := by
          have onPath := searching.onPath
          rwa [whole] at onPath
        obtain ⟨left, upTo, walked⟩ := searching.walked.upTo searching.reached suffix
        rw [upTo]
        split
        next back => exact .back walked arrow back
        next off =>
          have here : (head :: tail :: below).filter (· ∉ explored) = head :: tail :: below := by
            rw [List.filter_cons_of_pos (by simpa using new), whole]
          have entered : Searching arrows explored others (head :: tail :: below)
              ⟨(tail, head) :: left, head :: tail :: below, head :: path.seen, some head⟩ := by
            refine searching.enter taken (Or.inl off) (.step walked arrow off) rfl ?_ fun v => ?_
            · simp only [here, List.suffix_rfl]
            · simp [new, or_comm]
          exact (ih entered).mono fun v member => List.mem_cons_of_mem head member
  | case3 remaining vertex below none ih =>
      have traversed : traverse remaining (vertex :: below) = traverse remaining below := by
        rw [traverse]
        split
        next found => cases none.symm.trans found
        next => rfl
      rw [traversed]
      exact ih (searching.leave none)

theorem search_closed (surveyed : Surveyed arrows explored) {starts : List String} {closed : List Arrow}
    (found : search arrows explored starts = some closed) : Closed arrows closed := by
  induction explored, starts using search.induct arrows with
  | case1 => cases found
  | case2 explored start rest known ih =>
      rw [search, if_pos known] at found
      exact ih surveyed found
  | case3 explored start rest new walk follows =>
      have finds := (searching_start new).finds surveyed
      rw [search, if_neg new, follows] at found
      rw [follows] at finds
      cases found
      exact finds
  | case4 explored start rest new seen follows ih =>
      have finds := (searching_start new).finds surveyed
      rw [search, if_neg new, follows] at found
      rw [follows] at finds
      exact ih finds.1 found

theorem search_none (surveyed : Surveyed arrows explored) {starts : List String}
    (none : search arrows explored starts = none) : ∀ v ∈ starts, Grounded arrows v := by
  induction explored, starts using search.induct arrows with
  | case1 => exact fun v never => nomatch never
  | case2 explored start rest known ih =>
      rw [search, if_pos known] at none
      exact List.forall_mem_cons.mpr ⟨surveyed.grounded start known, ih surveyed none⟩
  | case3 explored start rest new walk follows =>
      rw [search, if_neg new, follows] at none
      cases none
  | case4 explored start rest new seen follows ih =>
      have finds := (searching_start new).finds surveyed
      rw [search, if_neg new, follows] at none
      rw [follows] at finds
      have grounded : Grounded arrows start :=
        finds.1.grounded start (List.mem_append_left _ (finds.2 start List.mem_cons_self))
      exact List.forall_mem_cons.mpr ⟨grounded, ih finds.1 none⟩

theorem dropWhile_ne {α : Type} [DecidableEq α] {x : α} {xs ys : List α} (before : x ∉ xs) :
    (xs ++ x :: ys).dropWhile (· ≠ x) = x :: ys := by
  rw [List.dropWhile_append_of_pos]
  · simp
  · intro y member
    simpa using fun same => before (by rwa [← same])

/-- The cycle of a closed walk is its part from the vertex that it leads back to. -/
theorem Closed.cycleOf {closed : List Arrow} (walk : Closed arrows closed) :
    ∃ first rest, (Graph.cycleOf closed).map (·.1) = first :: rest ∧ (first :: rest).Nodup ∧
      List.IsChain (fun v w => (v, w) ∈ arrows) (first :: (rest ++ [first])) := by
  cases walk with
  | @back path tail head below walked arrow back =>
      obtain ⟨upper, lower, split⟩ := List.append_of_mem back
      have distinct := walked.nodup
      have chain := List.IsChain.cons_cons arrow walked.chain
      have tails : ((tail, head) :: path).map (·.1) = tail :: below := by
        rw [List.map_cons, walked.tails]
      rw [split] at distinct chain tails
      have outside : head ∉ lower.reverse := by
        rw [List.mem_reverse]
        exact (List.nodup_cons.mp (List.nodup_append.mp distinct).2.1).1
      have ids : (Graph.cycleOf ((tail, head) :: path)).map (·.1) = head :: upper.reverse := by
        have begins : (((tail, head) :: path).reverse.map (·.1)).dropWhile (· ≠ head) = head :: upper.reverse := by
          rw [List.map_reverse, tails, List.reverse_append, List.reverse_cons, List.append_assoc]
          exact dropWhile_ne outside
        rw [List.dropWhile_map] at begins
        exact begins
      refine ⟨head, upper.reverse, ids, ?_, ?_⟩
      · have cycle : (upper ++ [head]).Nodup :=
          distinct.sublist (List.Sublist.append_left (List.singleton_sublist.mpr List.mem_cons_self) upper)
        rw [← List.nodup_reverse, List.reverse_concat] at cycle
        exact cycle
      · have inside : (head :: (upper ++ [head])) <+: (head :: (upper ++ head :: lower)) :=
          ⟨lower, by simp⟩
        have cycle := chain.prefix inside
        rw [← List.isChain_reverse] at cycle
        rw [List.reverse_cons, List.reverse_concat] at cycle
        exact cycle

theorem Grounded.irrefl {v : String} (grounded : Grounded arrows v) :
    ¬ Relation.TransGen (fun w v => (v, w) ∈ arrows) v v := by
  have walks := acc_transGen_iff.mpr grounded
  clear grounded
  induction walks with
  | intro v _ ih => exact fun loop => ih v loop loop

end

variable {g : Graph} {ids : List String}

theorem IsCycle.cyclic (cycle : g.IsCycle ids) : ¬ g.Acyclic := by
  cases ids with
  | nil => exact cycle.elim
  | cons first rest =>
      have walk := cycle.2.imp fun _ _ points => Relation.TransGen.single points
      exact fun acyclic => acyclic first (walk.rel_cons (by simp))

theorem surveyed_nothing {arrows : List Arrow} : Surveyed arrows [] := by
  constructor <;> simp

theorem cycle?_isCycle (found : g.cycle? = some ids) : g.IsCycle ids := by
  obtain ⟨closed, searched, rfl⟩ := Option.map_eq_some_iff.mp found
  obtain ⟨first, rest, same, distinct, chain⟩ := (search_closed surveyed_nothing searched).cycleOf
  rw [same]
  exact ⟨distinct, chain.imp fun _ _ arrow => mem_arrows.mp arrow⟩

theorem acyclic_of_cycle? (none : g.cycle? = none) : g.Acyclic := by
  have grounded := search_none surveyed_nothing (Option.map_eq_none_iff.mp none)
  intro v loop
  obtain ⟨w, first, _⟩ := Relation.TransGen.head'_iff.mp loop
  rw [← Relation.transGen_swap] at loop
  exact (grounded v first.vertex).irrefl (Relation.TransGen.mono (fun _ _ => mem_arrows.mpr) _ _ loop)

/-- A cycle is found exactly if there is one. -/
theorem cycle?_eq_none_iff : g.cycle? = none ↔ g.Acyclic := by
  refine ⟨acyclic_of_cycle?, fun acyclic => ?_⟩
  cases found : g.cycle? with
  | none => rfl
  | some ids => exact absurd acyclic (cycle?_isCycle found).cyclic

end WorkflowRuns.Graph
