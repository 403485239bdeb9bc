import WorkflowRuns.Cli.Program
import WorkflowRuns.Proofs.Display.Escaping

/-!
All markup that commands print is by the templates, but for lines that tell of faults in the fields of a refused
file.  These spell the places of the faults and what is wrong there as they are.
-/

namespace WorkflowRuns

namespace Showing

open Display

theorem ofHistory_frames {graph : Option Graph} {filter : String} {history : List (Instant × Event)} :
    ∀ frame ∈ (ofHistory graph filter history).frames, ∃ v, layout graph v = .ok frame.2 := by
  fun_induction ofHistory graph filter history with
  | case1 => exact List.forall_mem_nil _
  | case2 time session nodes rest l drawn showing ih =>
      exact List.forall_mem_cons.mpr ⟨⟨_, drawn⟩, ih⟩
  | case3 => exact List.forall_mem_nil _
  | case4 _ _ _ _ ih => exact ih
  | case5 _ _ _ _ ih => exact ih

end Showing

namespace Cli

open Display

def Complaint.markups : Complaint → List String
  | .lines told => told
  | .crash _ => []

def Item.markups : Item → List String
  | .shown item => item.markups
  | .frame _ layout => layout.markups

namespace Report

def markups (report : Report) : List String := report.printed.flatMap Item.markups

theorem markups_after (items : List Item) (requests : List Request) (report : Report) :
    (report.after items requests).markups = items.flatMap Item.markups ++ report.markups := List.flatMap_append

theorem mem_markups_shows {items : List Renderable} {code : Nat} {m : String} :
    m ∈ (shows items code).markups ↔ ∃ item ∈ items, m ∈ item.markups := by
  simp [markups, shows, Item.markups]

theorem mem_markups_ofParts {code : Nat} {parts : List (Except Overflow Renderable)} {m : String}
    (member : m ∈ (ofParts code parts).markups) : ∃ item, .ok item ∈ parts ∧ m ∈ item.markups := by
  induction parts with
  | nil => nomatch member
  | cons part rest ih =>
      cases part with
      | error => nomatch member
      | ok item =>
          rw [ofParts, markups_after, List.mem_append] at member
          rcases member with first | others
          · exact ⟨item, List.mem_cons_self, by simpa [Item.markups] using first⟩
          · obtain ⟨item, among, inside⟩ := ih others
            exact ⟨item, List.mem_cons_of_mem _ among, inside⟩

theorem markups_ofComplaint (complaint : Complaint) : (ofComplaint complaint).markups = complaint.markups := by
  cases complaint with
  | lines lines => simp [ofComplaint, shows, markups, Item.markups, Renderable.markups, Complaint.markups, List.flatMap_map]
  | crash => rfl

end Report

/-- A fault in the fields of a workflow file or of the settings, for which they are refused. -/
def Refused (s : Surroundings) (fault : Schema.Fault) : Prop :=
  (∃ path faults, Graph.ofFile path ((s.fileText? path).getD "") = .error (.graph (.fields faults)) ∧ fault ∈ faults) ∨
  ∃ faults, Config.load s.location (s.fileText? Surroundings.configPath) s.environment = .error (.fields faults) ∧
    fault ∈ faults

def faultWords (fault : Schema.Fault) : String := fault.location ++ ": " ++ fault.problem.message

/-- Markup that a command may print.  The words of a fault are not escaped, which matters where escaping changes
them, and neither is the note that a project was set up, which spells where the directory is. -/
inductive Told (s : Surroundings) : String → Prop
  | inert {m : String} (inert : Inert m) : Told s m
  | fault {fault : Schema.Fault} (refused : Refused s fault) (changed : escape (faultWords fault) ≠ faultWords fault) :
      Told s (Complaint.faultLine fault)
  | created {m : String} (member : m ∈ (createdPanel s.location).markups) : Told s m

theorem Told.templated {s : Surroundings} {m : String} (templated : Templated m) : Told s m := .inert templated.inert

section Complaints

variable {s : Surroundings}

theorem told_headed {heading : String} {details : List String} (known : Complaint.colored "red" heading ∈ fixedWords)
    (each : ∀ line ∈ details, Told s line) : ∀ m ∈ (Complaint.headed heading details).markups, Told s m :=
  List.forall_mem_cons.mpr ⟨.templated (.words known), each⟩

theorem told_error (words : String) : ∀ m ∈ (Complaint.error (escape words)).markups, Told s m := by
  refine List.forall_mem_singleton.mpr (.templated ?_)
  exact .text (by simp [aroundText] : ("[red]Error:[/red] ", "") ∈ aroundText) words
    (by simp [Complaint.colored])

theorem told_parsing (path words : String) : ∀ m ∈ (Complaint.parsing path words).markups, Told s m := by
  have heading : Templated (Complaint.colored "red" ("Error parsing workflow file '" ++ escape path ++ "':")) :=
    .text (by simp [aroundText] : ("[red]Error parsing workflow file '", "':[/red]") ∈ aroundText) path
      (by simp [Complaint.colored, ← String.toList_inj])
  have detail : Templated ("  " ++ escape words) :=
    .text (by simp [aroundText] : ("  ", "") ∈ aroundText) words (by simp)
  exact List.forall_mem_cons.mpr ⟨.templated heading, List.forall_mem_singleton.mpr (.templated detail)⟩

theorem told_validating (words : String) : ∀ m ∈ (Complaint.validating words).markups, Told s m := by
  refine told_headed (by simp [Complaint.colored, fixedWords]) (List.forall_mem_singleton.mpr (.templated ?_))
  exact .text (by simp [aroundText] : ("  ", "") ∈ aroundText) words (by simp)

theorem told_faultLine {fault : Schema.Fault} (refused : Refused s fault) : Told s (Complaint.faultLine fault) := by
  by_cases same : escape (faultWords fault) = faultWords fault
  · have line : "  - " ++ escape (faultWords fault) ++ "" = Complaint.faultLine fault := by
      rw [same, String.append_empty, faultWords, Complaint.faultLine, String.append_assoc, String.append_assoc,
        String.append_assoc]
    exact .templated (.text (by simp [aroundText] : ("  - ", "") ∈ aroundText) (faultWords fault) line)
  · exact .fault refused same

theorem told_faults {faults : List Schema.Fault} {heading : String}
    (known : Complaint.colored "red" heading ∈ fixedWords) (refused : ∀ fault ∈ faults, Refused s fault) :
    ∀ m ∈ (Complaint.headed heading (faults.map Complaint.faultLine)).markups, Told s m :=
  told_headed known (List.forall_mem_map.mpr fun fault among => told_faultLine (refused fault among))

theorem told_ofErrors (errors : List String) : ∀ m ∈ (Complaint.ofErrors errors).markups, Told s m := by
  refine told_headed (by simp [Complaint.colored, fixedWords]) (List.forall_mem_map.mpr fun error _ => .templated ?_)
  exact .text (by simp [aroundText] : ("  - ", "") ∈ aroundText) error (by simp)

theorem told_ofFailure (failure : Failure) : ∀ m ∈ (Complaint.ofFailure failure).markups, Told s m := by
  cases failure with
  | malformedPayload | transport | notInitialized => exact told_error _
  | invalidGraph errors => exact told_ofErrors errors
  | invalidUrl | badValue | runtime => exact List.forall_mem_nil _

theorem told_ofExportFault {fault : ExportFault}
    (refused : ∀ faults, fault = .fields faults → ∀ f ∈ faults, Refused s f) :
    ∀ m ∈ (Complaint.ofExportFault fault).markups, Told s m := by
  cases fault with
  | notIterable | notMapping | unnamedKeyword => exact told_validating _
  | fields faults => exact told_faults (by simp [Complaint.colored, fixedWords]) (refused faults rfl)
  | noFields => exact List.forall_mem_nil _

theorem told_graph {path : String} {complaint : Complaint} (refused : s.graph path = .error complaint) :
    ∀ m ∈ complaint.markups, Told s m := by
  rw [Surroundings.graph] at refused
  obtain ⟨fault, read, rfl⟩ := mapError_error_iff.mp refused
  cases fault with
  | json error =>
      cases error with
      | grammar => exact told_parsing path _
      | digits => exact told_validating _
  | yaml error =>
      cases error with
      | malformed => exact told_parsing path _
      | badValue => exact told_validating _
      | _ => exact List.forall_mem_nil _
  | notMapping => exact told_validating _
  | graph fault =>
      refine told_ofExportFault fun faults same f among => .inl ⟨path, faults, ?_, among⟩
      rw [← same, read]

theorem told_config {complaint : Complaint} (refused : s.config = .error complaint) :
    ∀ m ∈ complaint.markups, Told s m := by
  obtain ⟨fault, read, rfl⟩ := mapError_error_iff.mp refused
  cases fault with
  | yaml error =>
      cases error with
      | malformed =>
          refine List.forall_mem_singleton.mpr (.templated ?_)
          exact .text (by simp [aroundText] :
            ("[red]Error:[/red] Invalid YAML in .flowmon/config.yaml: ", "") ∈ aroundText)
            (s.yamlWords ((s.fileText? Surroundings.configPath).getD ""))
            (by simp [Complaint.colored, Config.directoryName, Config.fileName, ← String.toList_inj])
      | badValue => exact told_error _
      | _ => exact List.forall_mem_nil _
  | notMapping | badSection => exact told_error _
  | unnamedSetting => exact List.forall_mem_nil _
  | fields faults =>
      exact told_faults (by simp [Complaint.colored, fixedWords]) fun fault among => .inr ⟨faults, read, among⟩

theorem told_failed {α : Type} {made : Except Failure α} {complaint : Complaint}
    (refused : made.mapError Complaint.ofFailure = .error complaint) : ∀ m ∈ complaint.markups, Told s m := by
  obtain ⟨failure, _, rfl⟩ := mapError_error_iff.mp refused
  exact told_ofFailure failure

theorem told_start {config : Config} {complaint : Complaint} (refused : start s config = .error complaint) :
    ∀ m ∈ complaint.markups, Told s m := by
  unfold start at refused
  cases served : s.service config with
  | ok =>
      rw [served] at refused
      cases refused
  | error =>
      rw [served] at refused
      cases refused
      exact told_failed served

end Complaints

section Reports

variable {s : Surroundings}

theorem told_reporting {α : Type} {made : Except Complaint α} {report : α → Report}
    (complaints : ∀ complaint, made = .error complaint → ∀ m ∈ complaint.markups, Told s m)
    (reports : ∀ a, made = .ok a → ∀ m ∈ (report a).markups, Told s m) :
    ∀ m ∈ (reporting made report).markups, Told s m := by
  cases made with
  | ok a => exact reports a rfl
  | error complaint =>
      rw [reporting, Report.markups_ofComplaint]
      exact complaints complaint rfl

theorem told_shows {items : List Renderable} {code : Nat} (each : ∀ item ∈ items, ∀ m ∈ item.markups, Templated m) :
    ∀ m ∈ (Report.shows items code).markups, Told s m := by
  intro m member
  obtain ⟨item, among, inside⟩ := Report.mem_markups_shows.mp member
  exact .templated (each item among m inside)

theorem told_ofParts {parts : List (Except Overflow Renderable)} {code : Nat}
    (each : ∀ item, .ok item ∈ parts → ∀ m ∈ item.markups, Templated m) :
    ∀ m ∈ (Report.ofParts code parts).markups, Told s m := by
  intro m member
  obtain ⟨item, among, inside⟩ := Report.mem_markups_ofParts member
  exact .templated (each item among m inside)

theorem told_setUp : ∀ m ∈ (setUp s).markups, Told s m := by
  unfold setUp
  by_cases present : (s.directory Config.directoryName).isSome = true
  · rw [if_pos present]
    exact told_shows (List.forall_mem_singleton.mpr
      (markup_templated (.words (by simp [Complaint.colored, fixedWords]))))
  · rw [if_neg present]
    intro m member
    have shown : m ∈ (Report.shows [createdPanel s.location] 0).markups := member
    obtain ⟨item, among, inside⟩ := Report.mem_markups_shows.mp shown
    rw [List.mem_singleton.mp among] at inside
    exact .created inside

theorem told_validate (path : String) : ∀ m ∈ (validate s path).markups, Told s m := by
  refine told_reporting (fun _ => told_graph) fun graph _ => ?_
  split_ifs
  · rw [Report.markups_ofComplaint]
    exact told_ofErrors _
  · refine told_ofParts fun item among => ?_
    simp only [List.mem_cons, Except.ok.injEq, List.not_mem_nil, or_false] at among
    rcases among with rfl | rfl | rfl | drawn
    · exact markup_templated (.words (by simp [Complaint.colored, fixedWords]))
    · exact markup_templated (.figure (by simp [aroundFigure] : ("  Nodes: ", "") ∈ aroundFigure)
        (Unmarked.nat graph.nodes.length) (by simp))
    · exact markup_templated (.figure (by simp [aroundFigure] : ("  Edges: ", "") ∈ aroundFigure)
        (Unmarked.nat graph.edges.length) (by simp))
    · obtain ⟨tree, shown, rfl⟩ := map_ok_iff.mp drawn.symm
      exact graphTree_templated shown

theorem told_summary (graph : Option Graph) (v : View) (code : Nat) : ∀ m ∈ (summary graph v code).markups, Told s m := by
  refine told_ofParts fun item among => ?_
  rcases List.mem_cons.mp among with drawn | among
  · exact statusPanel_templated drawn.symm
  · unfold summaryTable at among
    split at among
    next =>
      obtain ⟨table, shown, rfl⟩ := map_ok_iff.mp (List.mem_singleton.mp among).symm
      exact statusTable_templated shown
    next =>
      obtain ⟨table, shown, rfl⟩ := map_ok_iff.mp (List.mem_singleton.mp among).symm
      exact resultsTable_templated shown
    next => nomatch among

theorem told_followRun (graph : Option Graph) (following : Following) (m : Machine Service) :
    ∀ markup ∈ (followRun s graph following m).markups, Told s markup := by
  unfold followRun
  split
  next => exact List.forall_mem_nil _
  next m _ =>
    intro markup member
    rw [Report.markups_after, List.mem_append, List.mem_flatMap] at member
    rcases member with ⟨item, among, inside⟩ | member
    · obtain ⟨frame, shown, rfl⟩ := List.mem_map.mp among
      obtain ⟨v, drawn⟩ := Showing.ofHistory_frames frame shown
      exact .templated (layout_templated drawn markup inside)
    · split_ifs at member
      · nomatch member
      · exact told_summary graph _ _ markup member

theorem told_run (path : String) (following : Following) : ∀ m ∈ (run s path following).markups, Told s m := by
  refine told_reporting (fun _ => told_graph) fun graph _ => told_reporting (fun _ => told_config) fun config _ =>
    told_reporting (fun _ => told_start) fun m _ => ?_
  dsimp only
  split
  next => exact List.forall_mem_nil _
  next failure _ =>
    rw [Report.markups_after, Report.markups_ofComplaint]
    exact told_ofFailure failure
  next runId _ =>
    have started : Templated (Complaint.colored "blue" ("Started execution: " ++ escape runId)) :=
      .text (by simp [aroundText] : ("[blue]Started execution: ", "[/blue]") ∈ aroundText) runId
        (by simp [Complaint.colored, ← String.toList_inj])
    rw [Report.markups_after]
    exact List.forall_mem_append.mpr
      ⟨List.forall_mem_singleton.mpr (.templated started), told_followRun graph following _⟩

theorem told_watch (runId : String) (following : Following) : ∀ m ∈ (watch s runId following).markups, Told s m :=
  told_reporting (fun _ => told_config) fun _ _ => told_reporting (fun _ => told_start) fun _ _ =>
    told_reporting (fun _ => told_failed) fun m _ => told_followRun none following m

theorem told_withSnapshot {report : Snapshot → Report} (runId : String)
    (reports : ∀ snapshot, ∀ m ∈ (report snapshot).markups, Told s m) :
    ∀ m ∈ (withSnapshot s runId report).markups, Told s m := by
  refine told_reporting (fun _ => told_config) fun config _ => told_reporting (fun _ => told_failed) fun service _ => ?_
  dsimp only
  rw [Report.markups_after]
  exact told_reporting (fun _ => told_failed) fun snapshot _ => reports snapshot

theorem told_logs (runId filter : String) : ∀ m ∈ (logs s runId filter).markups, Told s m := by
  refine told_withSnapshot runId fun snapshot => ?_
  dsimp only
  split_ifs
  · refine told_shows ?_
    rw [List.forall_mem_cons, List.forall_mem_singleton]
    constructor
    · exact markup_templated (.text (by simp [aroundText] : ("[yellow]No logs for filter '", "'[/yellow]") ∈ aroundText)
        filter (by simp [Complaint.colored, ← String.toList_inj]))
    · exact markup_templated (.text (by simp [aroundText] : ("[dim]Available: ", "[/dim]") ∈ aroundText)
        (", ".intercalate (Graph.inOrder (knownFilters snapshot))) (by simp [Complaint.colored, ← String.toList_inj]))
  · exact told_shows (List.forall_mem_singleton.mpr
      (markup_templated (.words (by simp [Complaint.colored, fixedWords]))))
  · refine told_shows fun item among => ?_
    obtain ⟨entry, _, rfl⟩ := List.mem_map.mp among
    exact List.forall_mem_nil _

theorem told_inspectNode (runId : String) (nodeId : Option String) :
    ∀ m ∈ (inspectNode s runId nodeId).markups, Told s m := by
  refine told_withSnapshot runId fun snapshot => ?_
  split
  next found shown drawn => exact told_shows (inspect_templated drawn)
  next => exact List.forall_mem_nil _

theorem told_perform (invocation : Invocation) : ∀ m ∈ (perform s invocation).markups, Told s m := by
  cases invocation with
  | help | version => exact List.forall_mem_nil _
  | init => exact told_setUp
  | validate path => exact told_validate path
  | run path following => exact told_run path following
  | watch runId following => exact told_watch runId following
  | status runId => exact told_withSnapshot runId fun snapshot => told_summary none _ 0
  | logs runId filter => exact told_logs runId filter
  | inspect runId nodeId => exact told_inspectNode runId nodeId

theorem told_answer (words : List String) : ∀ m ∈ (answer s words).markups, Told s m := by
  unfold answer
  split
  next invocation _ => exact told_perform invocation
  next => exact List.forall_mem_nil _

end Reports

/-- All markup has the tags of its template, but for the lines about faults in the fields of a refused file where
escaping would have changed their words. -/
theorem markups_escaped (s : Surroundings) (words : List String) (m : String) :
    (Rendered m → Inert m) ∧ (m ∈ (answer s words).markups → Told s m) := by
  constructor
  · intro rendered
    exact rendered.templated.inert
  · exact told_answer words m

def waiting (duration : String) : Surroundings where
  location := "/project"
  directory := Directory.ofFiles [("workflow.json", Json.write (.record [("nodes", .list [.record [("id", .text "a"),
    ("type", .text "waitingNode"), ("data", .record [("duration", .text duration)])]]), ("edges", .list [])]))]
  environment := []
  recording := ⟨[], []⟩
  fuel := 0

theorem markups_escaped_waiting : Inert "Run: \\[b]run..." ∧
    Told (waiting "x") "[red]Error validating workflow schema:[/red]" := by
  have heading : "[red]Error validating workflow schema:[/red]" ∈
      (answer (waiting "x") ["validate", "workflow.json"]).markups := by decide +kernel
  have title : Rendered "Run: \\[b]run..." := @Rendered.statusTable _ [] (some "[b]run") _ rfl (by decide +kernel)
  exact ⟨(markups_escaped (waiting "x") [] _).1 title, (markups_escaped _ _ _).2 heading⟩

/-- A wait that is no number stands in a line with its own tags. -/
theorem fault_marked :
    (answer (waiting "x") ["validate", "workflow.json"]).markups.map tags = [["red", "/red"], []] ∧
    (answer (waiting "[red]x[/red]") ["validate", "workflow.json"]).markups.map tags =
      [["red", "/red"], ["red", "/red"]] := by
  decide +kernel

end Cli

end WorkflowRuns
