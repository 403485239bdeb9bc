import WorkflowRuns.Proofs.Display.Drawing
import WorkflowRuns.Proofs.Display.Templates
import WorkflowRuns.Proofs.Log.Keys

/-!
All markup of trees, tables, panels and frames is by the templates, whatever graph, snapshot or view is shown.
-/

namespace WorkflowRuns.Display

mutual
def Tree.markups : Tree → List String
  | .branch label children => label :: treeMarkups children

def treeMarkups : List Tree → List String
  | [] => []
  | tree :: rest => tree.markups ++ treeMarkups rest
end

def Cell.markups : Cell → List String
  | .markup s => [s]
  | .bar .. => []

def Table.markups (t : Table) : List String :=
  t.title.toList ++ t.columns.map Column.header ++ t.rows.flatMap fun row => row.flatMap Cell.markups

def Frame.markups (frame : Frame) : List String := frame.title.toList ++ frame.subtitle.toList

mutual
def Renderable.markups : Renderable → List String
  | .markup s => [s]
  | .text _ => []
  | .tree t => t.markups
  | .table t => t.markups
  | .panel content frame => content.markups ++ frame.markups
  | .group items => renderableMarkups items
  | .code _ => []

def renderableMarkups : List Renderable → List String
  | [] => []
  | item :: rest => item.markups ++ renderableMarkups rest
end

def Layout.markups (l : Layout) : List String := renderableMarkups [l.header, l.graph, l.status, l.logs, l.footer]

theorem mem_renderableMarkups {items : List Renderable} {m : String} :
    m ∈ renderableMarkups items ↔ ∃ item ∈ items, m ∈ item.markups := by
  induction items with
  | nil => simp [renderableMarkups]
  | cons item rest ih => simp [renderableMarkups, ih]

namespace Unmarked

theorem nat (n : Nat) : Unmarked (toString n) := by
  intro c member
  rw [toString_toList] at member
  have digit := Text.toDigits_digits n c member
  refine ⟨?_, ?_, ?_⟩ <;> rintro rfl <;> exact absurd digit (by decide)

theorem int (n : Int) : Unmarked (toString n) := by
  cases n with
  | ofNat n => exact nat n
  | negSucc n => exact append (show Unmarked "-" by decide) (nat (n + 1))

theorem atLeastTwo {s : String} (unmarked : Unmarked s) : Unmarked (if s.length < 2 then "0" ++ s else s) := by
  split_ifs
  · exact append (by decide) unmarked
  · exact unmarked

theorem twoPlaces (x : Binary64) : Unmarked x.twoPlaces := by
  unfold Binary64.twoPlaces
  split
  next q _ =>
    refine append (append (append ?_ (nat _)) (by decide)) (atLeastTwo (nat _))
    split_ifs <;> decide
  next none =>
    cases x with
    | finite => cases none
    | infinite negative => cases negative <;> decide
    | nan => decide

theorem durationText {q : Quantity} {text : String} (shown : Display.durationText q = .ok text) : Unmarked text := by
  unfold Display.durationText at shown
  simp only at shown
  split_ifs at shown
  · cases whole : q.whole? with
    | none =>
        rw [whole] at shown
        cases shown
    | some n =>
        rw [whole] at shown
        cases shown
        exact append (int n) (by decide)
  · cases thousandth : q.thousandth? with
    | none =>
        rw [thousandth] at shown
        cases shown
    | some x =>
        rw [thousandth] at shown
        cases shown
        exact append (twoPlaces x) (by decide)

theorem durationCell {duration : Option Int} {text : String} (shown : Display.durationCell duration = .ok text) :
    Unmarked text := by
  cases duration with
  | none =>
      cases shown
      decide
  | some n => exact durationText shown

theorem timeText (q : Quantity) : Unmarked (Display.timeText q) := by
  have twoDigits (n : Int) : Unmarked (twoDigits n) := atLeastTwo (int n)
  unfold Display.timeText
  split
  next =>
    split_ifs
    · decide
    · exact append (append (append (append (twoDigits _) (by decide)) (twoDigits _)) (by decide)) (twoDigits _)
  next => decide

theorem timeCell (time : Option Int) : Unmarked (Display.timeCell time) := by
  cases time with
  | none => decide
  | some n => exact timeText (.int n)

end Unmarked

theorem statusMarkup_words : statusMarkup "pending" = "[dim]○ Pending[/]" ∧
    statusMarkup "running" = "[yellow bold]⟳ Running[/]" ∧ statusMarkup "success" = "[green]✓ Success[/]" ∧
    statusMarkup "error" = "[red bold]✗ Error[/]" ∧
    statusMarkup "skipped" = "[dim strikethrough]⊘ Skipped[/]" := by
  decide +kernel

theorem templated_status (status : NodeStatus) : Templated (statusMarkup status.word) := by
  refine .words ?_
  cases status <;> simp [NodeStatus.word, statusMarkup_words, fixedWords]

theorem templated_outcome (outcome : NodeOutcome) : Templated (statusMarkup outcome.word) := by
  refine .words ?_
  cases outcome <;> simp [NodeOutcome.word, statusMarkup_words, fixedWords]

theorem templated_runStatus (status : RunStatus) : Templated (statusMarkup status.word) := by
  refine .words ?_
  cases status <;> simp [RunStatus.word, statusMarkup_words, fixedWords]

theorem treeTag_eq (kind : NodeKind) (status : NodeStatus) :
    treeTag kind status = "[" ++ (if status = .pending then kindColor kind else statusColor status.word) ++ "]" := by
  have success : statusColor "success" = "green" := by decide +kernel
  have error : statusColor "error" = "red bold" := by decide +kernel
  have skipped : statusColor "skipped" = "dim strikethrough" := by decide +kernel
  cases status <;> cases kind <;> simp [treeTag, kindColor, NodeStatus.word, success, error, skipped]

theorem escape_kindSymbol (kind : NodeKind) : escape (kindSymbol kind) = kindSymbol kind := by
  cases kind <;> decide +kernel

theorem templated_label (kind : NodeKind) (status : NodeStatus) (id : String) (summary duration : Option String)
    (unmarked : ∀ d, duration = some d → Unmarked d) :
    Templated (styled (if status = .pending then kindColor kind else statusColor status.word)
        (escape (kindSymbol kind) ++ " " ++ escape id ++ indicator status)
      ++ summary.elim "" (fun s => " " ++ styled "dim" (escape s))
      ++ duration.elim "" (fun d => " " ++ styled "dim" ("(" ++ d ++ ")"))) := by
  refine ⟨nodePieces kind status id summary duration, ?_, ?_, ?_⟩
  · have template := Template.node kind status summary.isSome duration.isSome
    cases summary <;> cases duration <;> exact template
  · intro f member
    cases summary <;> cases duration <;> simp [nodePieces] at member
    all_goals exact member ▸ unmarked _ rfl
  · rw [← String.toList_inj]
    cases summary <;> cases duration <;>
      simp [nodePieces, markupOf, Piece.markup, styled, treeTag_eq, escape_kindSymbol]

theorem nodeLabel_templated {node : Node} {label : String} (named : nodeLabel node = .ok label) : Templated label := by
  obtain ⟨summary, _, named⟩ := bind_ok_iff.mp named
  let described : Option String := if summary = "" then none else some summary
  have note : (if summary = "" then "" else " " ++ styled "dim" (escape summary)) =
      described.elim "" fun s => " " ++ styled "dim" (escape s) := by
    unfold described
    split_ifs <;> rfl
  by_cases pending : node.status = .pending
  · rw [if_pos pending] at named
    cases named
    have label := templated_label node.kind .pending node.id described none nofun
    rw [if_pos rfl, indicator, String.append_empty, Option.elim_none, String.append_empty, ← note] at label
    exact label
  · rw [if_neg pending] at named
    cases given : node.duration with
    | none =>
        simp only [given] at named
        cases named
        have label := templated_label node.kind node.status node.id described none nofun
        rw [if_neg pending, ← note] at label
        exact label
    | some n =>
        simp only [given] at named
        obtain ⟨text, shown, named⟩ := bind_ok_iff.mp named
        cases named
        have label := templated_label node.kind node.status node.id described (some text) fun d same =>
          Option.some.inj same ▸ Unmarked.durationText shown
        rw [if_neg pending, ← note] at label
        exact label

namespace Trail

variable {t : Trail} {met : List String} {depth : Nat}

theorem branches_templated
    (each : ∀ node tree, t.branch met depth node = .ok tree → ∀ m ∈ tree.markups, Templated m) {nodes : List Node}
    {trees : List Tree} (drawn : t.branches met depth nodes = .ok trees) : ∀ m ∈ treeMarkups trees, Templated m := by
  induction nodes generalizing trees with
  | nil =>
      rw [branches] at drawn
      cases drawn
      exact List.forall_mem_nil _
  | cons node rest ih =>
      rw [branches] at drawn
      obtain ⟨first, drawnFirst, drawn⟩ := bind_ok_iff.mp drawn
      obtain ⟨others, drawnOthers, drawn⟩ := bind_ok_iff.mp drawn
      cases drawn
      intro m member
      rw [treeMarkups, List.mem_append] at member
      exact member.elim (each node first drawnFirst m) (ih drawnOthers m)

theorem branch_templated (t : Trail) (met : List String) (depth : Nat) {node : Node} {tree : Tree}
    (drawn : t.branch met depth node = .ok tree) : ∀ m ∈ tree.markups, Templated m := by
  have mark {s : String} (templated : Templated s) : ∀ m ∈ (leaf s).markups, Templated m := by
    intro m member
    rw [leaf, Tree.markups, treeMarkups, List.mem_singleton] at member
    exact member ▸ templated
  induction depth generalizing met node tree with
  | zero =>
      rw [branch] at drawn
      cases drawn
      exact mark (.words (by simp [fixedWords, styled]))
  | succ depth ih =>
      rw [branch] at drawn
      split at drawn
      next =>
        cases drawn
        exact mark (.text (by decide : ("[dim]↩ ", " (loop)[/]") ∈ aroundText) node.id (by simp [styled, ← String.toList_inj]))
      next =>
        obtain ⟨label, named, drawn⟩ := bind_ok_iff.mp drawn
        obtain ⟨children, below, drawn⟩ := bind_ok_iff.mp drawn
        cases drawn
        rw [Tree.markups]
        exact List.forall_mem_cons.mpr ⟨nodeLabel_templated named,
          branches_templated (fun _ _ => ih (node.id :: met)) below⟩

end Trail

theorem graphTree_templated {g : Graph} {shown : List Node} {title : String} {depth : Nat} {tree : Tree}
    (drawn : graphTree g shown title depth = .ok tree) : ∀ m ∈ tree.markups, Templated m := by
  have root : Templated (styled "bold" (escape title)) :=
    .text (by simp [aroundText] : ("[bold]", "[/]") ∈ aroundText) title (by simp [styled])
  unfold graphTree at drawn
  simp only at drawn
  split at drawn
  next =>
    cases drawn
    refine List.forall_mem_cons.mpr ⟨root, ?_⟩
    intro m member
    simp only [treeMarkups, leaf, Tree.markups, List.append_nil, List.mem_singleton] at member
    rw [member]
    split_ifs <;> exact .words (by simp [fixedWords, styled])
  next =>
    obtain ⟨trees, below, drawn⟩ := bind_ok_iff.mp drawn
    cases drawn
    exact List.forall_mem_cons.mpr ⟨root, Trail.branches_templated (fun _ _ => Trail.branch_templated _ _ _) below⟩

theorem table_templated {t : Table} (title : ∀ s, t.title = some s → Templated s)
    (headers : ∀ column ∈ t.columns, column.header ∈ fixedWords)
    (cells : ∀ row ∈ t.rows, ∀ s, Cell.markup s ∈ row → Templated s) : ∀ m ∈ t.markups, Templated m := by
  intro m member
  rw [Table.markups, List.mem_append, List.mem_append, Option.mem_toList, List.mem_map, List.mem_flatMap] at member
  rcases member with (titled | ⟨column, among, rfl⟩) | ⟨row, among, member⟩
  · exact title m titled
  · exact .words (headers column among)
  · obtain ⟨cell, inside, member⟩ := List.mem_flatMap.mp member
    cases cell with
    | markup s =>
        rw [List.mem_singleton.mp member]
        exact cells row among s inside
    | bar => nomatch member

theorem runTitle_templated (id : String) : Templated (runTitle id) :=
  .text (by simp [aroundText] : ("Run: ", "...") ∈ aroundText) _ rfl

theorem statusTable_templated {nodes : List Node} {runId : Option String} {table : Table}
    (drawn : statusTable nodes runId = .ok table) : ∀ m ∈ table.markups, Templated m := by
  obtain ⟨rows, drawnRows, drawn⟩ := bind_ok_iff.mp drawn
  cases drawn
  refine table_templated ?title (by simp [Column.plain, fixedWords]) fun row among s cell => ?cells
  case title =>
    rintro s ⟨⟩
    cases runId with
    | none => exact .words (by simp [fixedWords])
    | some id =>
        dsimp only
        split_ifs
        · exact .words (by simp [fixedWords])
        · exact runTitle_templated id
  case cells =>
    obtain ⟨node, _, drawn⟩ := (mem_mapM_ok drawnRows row).mp among
    obtain ⟨duration, shown, drawn⟩ := bind_ok_iff.mp drawn
    cases drawn
    simp only [List.mem_cons, Cell.markup.injEq, List.not_mem_nil, or_false] at cell
    rcases cell with rfl | rfl | rfl | rfl | rfl
    · exact .escaped node.id
    · exact .words (by cases node.kind <;> simp [fixedWords, NodeKind.word])
    · exact templated_status node.status
    · exact .unmarked (Unmarked.durationCell shown)
    · exact .escaped _

theorem resultsTable_templated {s : Snapshot} {table : Table} (drawn : resultsTable s = .ok table) :
    ∀ m ∈ table.markups, Templated m := by
  obtain ⟨rows, drawnRows, drawn⟩ := bind_ok_iff.mp drawn
  cases drawn
  refine table_templated ?title (by simp [Column.plain, fixedWords]) fun row among text cell => ?cells
  case title =>
    rintro text ⟨⟩
    exact runTitle_templated _
  case cells =>
    obtain ⟨result, _, drawn⟩ := (mem_mapM_ok drawnRows row).mp among
    obtain ⟨duration, shown, drawn⟩ := bind_ok_iff.mp drawn
    cases drawn
    simp only [List.mem_cons, Cell.markup.injEq, List.not_mem_nil, or_false] at cell
    rcases cell with rfl | rfl | rfl | rfl | rfl | rfl
    · exact .escaped result.nodeId
    · exact .escaped (typeText result)
    · exact templated_outcome result.status
    · exact .unmarked (Unmarked.timeText _)
    · exact .unmarked (Unmarked.durationText shown)
    · exact .unmarked (Unmarked.nat _)

theorem reportedTable_templated (s : Snapshot) : ∀ m ∈ (reportedTable s).markups, Templated m := by
  refine table_templated ?title (by simp [reportedTable, Column.plain, fixedWords]) fun row among text cell => ?cells
  case title =>
    rintro text ⟨⟩
    exact .words (by simp [fixedWords])
  case cells =>
    obtain ⟨result, _, rfl⟩ := List.mem_map.mp among
    simp only [reportedRow, List.mem_cons, Cell.markup.injEq, List.not_mem_nil, or_false] at cell
    rcases cell with rfl | rfl | rfl | rfl
    · exact .escaped result.nodeId
    · exact .escaped (typeText result)
    · exact templated_outcome result.status
    · cases result.error with
      | none => exact .words (by simp [fixedWords])
      | some error =>
          dsimp only
          split_ifs
          · exact .words (by simp [fixedWords])
          · exact .escaped error

theorem metrics_templated {s : Snapshot} {table : Table} (drawn : metrics s = .ok table) :
    ∀ m ∈ table.markups, Templated m := by
  have capitals : styled (statusColor s.status.word) (Text.upper s.status.word) ∈ fixedWords := by
    have running : styled (statusColor "running") (Text.upper "running") = "[yellow bold]RUNNING[/]" := by decide +kernel
    have success : styled (statusColor "success") (Text.upper "success") = "[green]SUCCESS[/]" := by decide +kernel
    have error : styled (statusColor "error") (Text.upper "error") = "[red bold]ERROR[/]" := by decide +kernel
    have skipped : styled (statusColor "skipped") (Text.upper "skipped") = "[dim strikethrough]SKIPPED[/]" := by
      decide +kernel
    cases s.status <;> simp [RunStatus.word, running, success, error, skipped, fixedWords]
  obtain ⟨duration, shown, drawn⟩ := bind_ok_iff.mp drawn
  cases drawn
  refine table_templated nofun (by simp [gridColumn, Column.plain, fixedWords]) fun row among text cell => ?_
  simp only [List.mem_cons, List.not_mem_nil, or_false] at among
  rcases among with rfl | rfl | rfl
  all_goals
    simp only [List.mem_cons, Cell.markup.injEq, List.not_mem_nil, or_false] at cell
    rcases cell with rfl | rfl | rfl | rfl
  · exact .words (by simp [fixedWords])
  · exact .unmarked (Unmarked.int _)
  · exact .words (by simp [fixedWords])
  · exact .words capitals
  · exact .words (by simp [fixedWords])
  · exact .unmarked (Unmarked.timeCell _)
  · exact .words (by simp [fixedWords])
  · exact .unmarked (Unmarked.timeCell _)
  · exact .words (by simp [fixedWords])
  · exact .unmarked (Unmarked.durationText shown)
  · exact .words (by simp [fixedWords])
  · exact .words (by simp [fixedWords])

theorem progressTable_templated (progress : Nat) : ∀ m ∈ (progressTable progress).markups, Templated m := by
  refine table_templated nofun (by simp [progressTable, Column.plain, fixedWords]) fun row among text cell => ?_
  rw [List.mem_singleton.mp among] at cell
  simp only [List.mem_cons, Cell.markup.injEq, List.not_mem_nil, or_false, reduceCtorEq, false_or] at cell
  rw [cell]
  exact .figure (by simp [aroundFigure] : ("", "%") ∈ aroundFigure) (Unmarked.nat progress) (by simp)

theorem panel_templated {content : Renderable} {frame : Frame} (inside : ∀ m ∈ content.markups, Templated m)
    (titles : ∀ m ∈ frame.markups, Templated m) : ∀ m ∈ (Renderable.panel content frame).markups, Templated m := by
  intro m member
  rw [Renderable.markups, List.mem_append] at member
  exact member.elim (inside m) (titles m)

theorem titled_templated {title : String} (templated : Templated title) (style borderStyle : String) :
    ∀ m ∈ Frame.markups { Frame.titled title with style, borderStyle }, Templated m :=
  List.forall_mem_singleton.mpr templated

theorem markup_templated {s : String} (templated : Templated s) : ∀ m ∈ (Renderable.markup s).markups, Templated m :=
  List.forall_mem_singleton.mpr templated

theorem group_templated {items : List Renderable} (each : ∀ item ∈ items, ∀ m ∈ item.markups, Templated m) :
    ∀ m ∈ (Renderable.group items).markups, Templated m := by
  intro m member
  obtain ⟨item, among, inside⟩ := mem_renderableMarkups.mp member
  exact each item among m inside

theorem errorPanel_templated {title : String} (known : title ∈ fixedWords) (error : Option String) :
    ∀ item ∈ errorPanel title error, ∀ m ∈ item.markups, Templated m := by
  unfold errorPanel
  split
  next error =>
    split_ifs
    · exact List.forall_mem_nil _
    · have words : Templated (styled "red" (escape error)) :=
        .text (by simp [aroundText] : ("[red]", "[/]") ∈ aroundText) error (by simp [styled])
      exact List.forall_mem_singleton.mpr
        (panel_templated (markup_templated words) (titled_templated (.words known) "red" "none"))
  next => exact List.forall_mem_nil _

theorem documentPanel_templated {title : String} (known : title ∈ fixedWords) (value : Value) :
    ∀ item ∈ documentPanel title value, ∀ m ∈ item.markups, Templated m := by
  unfold documentPanel
  split
  next => exact List.forall_mem_nil _
  next => exact List.forall_mem_singleton.mpr (panel_templated (List.forall_mem_nil _) (titled_templated (.words known) "none" "none"))

theorem logPanel_templated (lines : List String) : ∀ item ∈ logPanel lines, ∀ m ∈ item.markups, Templated m := by
  unfold logPanel
  split_ifs
  · exact List.forall_mem_nil _
  · have title : Templated ("Logs (" ++ toString lines.length ++ ")") :=
      .figure (by simp [aroundFigure] : ("Logs (", ")") ∈ aroundFigure) (Unmarked.nat lines.length) rfl
    exact List.forall_mem_singleton.mpr (panel_templated (List.forall_mem_nil _) (titled_templated title "none" "none"))

theorem logLines_templated (v : View) (limit : Option Int) : ∀ m ∈ (logLines v limit).markups, Templated m := by
  unfold logLines
  split_ifs
  · exact List.forall_mem_nil _
  · refine group_templated fun item among => ?_
    obtain ⟨entry, _, rfl⟩ := List.mem_map.mp among
    exact List.forall_mem_nil _

theorem inspection_templated {result : NodeResult} {items : List Renderable} (drawn : inspection result = .ok items) :
    ∀ item ∈ items, ∀ m ∈ item.markups, Templated m := by
  obtain ⟨duration, shown, drawn⟩ := bind_ok_iff.mp drawn
  cases drawn
  have title : Templated ("Node: " ++ escape result.nodeId) :=
    .text (by simp [aroundText] : ("Node: ", "") ∈ aroundText) result.nodeId (by simp)
  have id : Templated (styled "bold" ("ID" ++ ":") ++ " " ++ escape result.nodeId) :=
    .text (by simp [aroundText] : ("[bold]ID:[/] ", "") ∈ aroundText) result.nodeId (by simp [styled])
  have kind : Templated (styled "bold" ("Type" ++ ":") ++ " " ++ escape (typeText result)) :=
    .text (by simp [aroundText] : ("[bold]Type:[/] ", "") ∈ aroundText) (typeText result) (by simp [styled])
  have status : Templated (styled "bold" ("Status" ++ ":") ++ " " ++ statusMarkup result.status.word) := by
    refine .words ?_
    cases result.status <;> simp [NodeOutcome.word, statusMarkup_words, styled, fixedWords]
  have started : Templated (styled "bold" ("Started" ++ ":") ++ " " ++ timeText (.int result.timestamp)) :=
    .figure (by simp [aroundFigure] : ("[bold]Started:[/] ", "") ∈ aroundFigure)
      (Unmarked.timeText (.int result.timestamp)) (by simp [styled])
  have lasted : Templated (styled "bold" ("Duration" ++ ":") ++ " " ++ duration) :=
    .figure (by simp [aroundFigure] : ("[bold]Duration:[/] ", "") ∈ aroundFigure) (Unmarked.durationText shown)
      (by simp [styled])
  have facts : ∀ item ∈ [labelled "ID" (escape result.nodeId), labelled "Type" (escape (typeText result)),
      labelled "Status" (statusMarkup result.status.word), labelled "Started" (timeText (.int result.timestamp)),
      labelled "Duration" duration], ∀ m ∈ item.markups, Templated m := by
    simp only [List.forall_mem_cons]
    exact ⟨markup_templated id, markup_templated kind, markup_templated status, markup_templated started,
      markup_templated lasted, List.forall_mem_nil _⟩
  intro item member
  simp only [List.mem_append, List.mem_cons] at member
  rcases member with (((rfl | result) | note) | lines) | error
  · exact panel_templated (group_templated facts) (titled_templated title "none" "none")
  · exact documentPanel_templated (by simp [fixedWords]) _ item result
  · exact documentPanel_templated (by simp [fixedWords]) _ item note
  · exact logPanel_templated _ item lines
  · exact errorPanel_templated (by simp [fixedWords]) _ item error

theorem inspect_templated {s : Snapshot} {nodeId : Option String} {found : Bool} {items : List Renderable}
    (drawn : inspect s nodeId = .ok (found, items)) : ∀ item ∈ items, ∀ m ∈ item.markups, Templated m := by
  unfold inspect at drawn
  split at drawn
  next =>
    cases drawn
    exact List.forall_mem_singleton.mpr (reportedTable_templated s)
  next id =>
    split at drawn
    next =>
      cases drawn
      exact List.forall_mem_singleton.mpr (markup_templated
        (.text (by simp [aroundText] : ("[yellow]No execution data for ", "[/]") ∈ aroundText) id
          (by simp [styled, ← String.toList_inj])))
    next result _ =>
      obtain ⟨shown, inspected, same⟩ := map_ok_iff.mp drawn
      cases same
      exact inspection_templated inspected

theorem footer_templated (v : View) : Templated (footer v) := by
  have blank : statusMarkup "" = "[dim]○ Pending[/]" := by decide +kernel
  unfold footer
  split
  case h_4 =>
    unfold staleFooter
    cases v.session.failure with
    | none => exact .words (by simp [fixedWords, styled])
    | some failure =>
        exact .text (by simp [aroundText] :
          ("[yellow]⚠ Status request failed, showing previous data: ", "[/]") ∈ aroundText) failure.message
          (by simp [styled, ← String.toList_inj])
  case h_6 =>
    unfold finishedFooter
    split_ifs
    · exact .words (by simp [fixedWords, styled])
    · exact .words (by simp [fixedWords, styled])
    · cases v.snapshot with
      | none => exact .words (by simp [blank, fixedWords])
      | some s => exact templated_runStatus s.status
  all_goals exact .words (by simp [fixedWords, styled])

theorem headerText_templated (v : View) : Templated (headerText v) := by
  unfold headerText
  simp only
  split_ifs
  · exact .text (by simp [aroundText] : ("[bold green]✓ Completed:[/] ", "") ∈ aroundText) (shortRunId v.runId)
      (by simp [styled])
  · exact .text (by simp [aroundText] : ("[bold red]✗ Failed:[/] ", "") ∈ aroundText) (shortRunId v.runId)
      (by simp [styled])
  · exact .text (by simp [aroundText] : ("[bold blue]⟳ Executing:[/] ", "") ∈ aroundText) (shortRunId v.runId)
      (by simp [styled])
  · exact .text (by simp [aroundText] : ("[bold]", "[/]") ∈ aroundText) (shortRunId v.runId) (by simp [styled])

theorem snapshotParts_templated {v : View} {s : Snapshot} {limit : Option Int} {items : List Renderable}
    (drawn : snapshotParts v s limit = .ok items) : ∀ item ∈ items, ∀ m ∈ item.markups, Templated m := by
  obtain ⟨table, shown, drawn⟩ := bind_ok_iff.mp drawn
  cases drawn
  intro item member
  simp only [List.mem_append, List.mem_cons, List.not_mem_nil, or_false] at member
  rcases member with ((rfl | progress) | error) | rfl | rfl
  · exact metrics_templated shown
  · split_ifs at progress
    · rw [List.mem_singleton.mp progress]
      exact progressTable_templated v.progress
    · nomatch progress
  · exact errorPanel_templated (by simp [fixedWords]) _ item error
  · exact List.forall_mem_nil _
  · exact logLines_templated v limit

theorem statusPanel_templated {v : View} {limit : Option Int} {panel : Renderable}
    (drawn : statusPanel v limit = .ok panel) : ∀ m ∈ panel.markups, Templated m := by
  have title : Templated "Workflow Status" := .words (by simp [fixedWords])
  have whole {body : List Renderable} (border : String) (inside : ∀ item ∈ body, ∀ m ∈ item.markups, Templated m) :
      ∀ m ∈ (Renderable.panel (.group ((if v.runId.getD "" = "" then []
        else [.markup (styled "dim" "Workflow ID:" ++ " " ++ escape (shortRunId v.runId))]) ++ body
          ++ [.markup (footer v)])) { Frame.titled "Workflow Status" with borderStyle := border }).markups,
        Templated m := by
    refine panel_templated (group_templated fun item member => ?_) (titled_templated title _ _)
    rw [List.mem_append, List.mem_append, List.mem_singleton] at member
    rcases member with (head | member) | rfl
    · split_ifs at head
      · nomatch head
      · rw [List.mem_singleton.mp head]
        exact markup_templated (.text (by simp [aroundText] : ("[dim]Workflow ID:[/] ", "") ∈ aroundText)
          (shortRunId v.runId) (by simp [styled]))
    · exact inside item member
    · exact markup_templated (footer_templated v)
  unfold statusPanel at drawn
  cases seen : v.snapshot with
  | none =>
      simp only [seen] at drawn
      cases drawn
      exact whole "dim" (List.forall_mem_singleton.mpr (List.forall_mem_nil _))
  | some s =>
      simp only [seen] at drawn
      obtain ⟨body, shown, drawn⟩ := bind_ok_iff.mp drawn
      cases drawn
      exact whole (statusColor s.status.word) (snapshotParts_templated shown)

theorem middle_templated {graph : Option Graph} {v : View} {panels : Renderable × Renderable}
    (drawn : middle graph v = .ok panels) :
    (∀ m ∈ panels.1.markups, Templated m) ∧ ∀ m ∈ panels.2.markups, Templated m := by
  have title {s : String} (known : s ∈ fixedWords) := titled_templated (.words known) "none" "none"
  unfold middle at drawn
  split at drawn
  next g _ =>
    obtain ⟨tree, shown, drawn⟩ := bind_ok_iff.mp drawn
    obtain ⟨table, shown', drawn⟩ := bind_ok_iff.mp drawn
    cases drawn
    exact ⟨panel_templated (graphTree_templated shown) (title (by simp [fixedWords])),
      panel_templated (statusTable_templated shown') (title (by simp [fixedWords]))⟩
  next s _ =>
    obtain ⟨table, shown, drawn⟩ := bind_ok_iff.mp drawn
    cases drawn
    exact ⟨panel_templated (resultsTable_templated shown) (title (by simp [fixedWords])),
      panel_templated (List.forall_mem_nil _) (title (by simp [fixedWords]))⟩
  next =>
    cases drawn
    exact ⟨panel_templated (markup_templated (.words (by simp [fixedWords, styled]))) (title (by simp [fixedWords])),
      panel_templated (markup_templated (.words (by simp [fixedWords]))) (title (by simp [fixedWords]))⟩

theorem layout_templated {graph : Option Graph} {v : View} {l : Layout} (drawn : layout graph v = .ok l) :
    ∀ m ∈ l.markups, Templated m := by
  obtain ⟨panels, shown, drawn⟩ := bind_ok_iff.mp drawn
  cases drawn
  obtain ⟨left, right⟩ := middle_templated shown
  have header : ∀ m ∈ (Renderable.panel (.markup (headerText v)) { Frame.plain with style := "bold" }).markups,
      Templated m := panel_templated (markup_templated (headerText_templated v)) (List.forall_mem_nil _)
  have logs := panel_templated (logLines_templated v (some logLimit))
    (titled_templated (.words (by simp [fixedWords] : "Execution Logs" ∈ fixedWords)) "none" "none")
  have frame : ∀ m ∈ Frame.markups { Frame.titled "Progress" with subtitle := some (footer v) }, Templated m :=
    List.forall_mem_cons.mpr ⟨.words (by simp [fixedWords]), List.forall_mem_singleton.mpr (footer_templated v)⟩
  have progress : ∀ m ∈ (Renderable.panel (.table (progressTable v.progress))
      { Frame.titled "Progress" with subtitle := some (footer v) }).markups, Templated m :=
    panel_templated (progressTable_templated v.progress) frame
  intro m member
  obtain ⟨item, among, inside⟩ := mem_renderableMarkups.mp member
  simp only [List.mem_cons, List.not_mem_nil, or_false] at among
  rcases among with rfl | rfl | rfl | rfl | rfl
  · exact header m inside
  · exact left m inside
  · exact right m inside
  · exact logs m inside
  · exact progress m inside

/-- Markup in a drawing of a graph, a snapshot or a view. -/
inductive Rendered (m : String) : Prop
  | tree {g : Graph} {shown : List Node} {title : String} {depth : Nat} {tree : Tree}
      (drawn : graphTree g shown title depth = .ok tree) (member : m ∈ tree.markups)
  | statusTable {nodes : List Node} {runId : Option String} {table : Table}
      (drawn : statusTable nodes runId = .ok table) (member : m ∈ table.markups)
  | resultsTable {s : Snapshot} {table : Table} (drawn : resultsTable s = .ok table) (member : m ∈ table.markups)
  | inspection {s : Snapshot} {nodeId : Option String} {found : Bool} {items : List Renderable} {item : Renderable}
      (drawn : inspect s nodeId = .ok (found, items)) (among : item ∈ items) (member : m ∈ item.markups)
  | panel {v : View} {limit : Option Int} {panel : Renderable} (drawn : statusPanel v limit = .ok panel)
      (member : m ∈ panel.markups)
  | layout {graph : Option Graph} {v : View} {l : Layout} (drawn : layout graph v = .ok l) (member : m ∈ l.markups)

theorem Rendered.templated {m : String} (rendered : Rendered m) : Templated m := by
  cases rendered with
  | tree drawn member => exact graphTree_templated drawn m member
  | statusTable drawn member => exact statusTable_templated drawn m member
  | resultsTable drawn member => exact resultsTable_templated drawn m member
  | inspection drawn among member => exact inspect_templated drawn _ among m member
  | panel drawn member => exact statusPanel_templated drawn m member
  | layout drawn member => exact layout_templated drawn m member

end WorkflowRuns.Display
