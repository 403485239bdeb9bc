import WorkflowRuns.Display.Monitor
import WorkflowRuns.Proofs.Display.Markup

/-!
The templates of all markup.  A template is words of the program with places for escaped texts and for numbers,
and its tags are those of the words, whatever stands in the places.
-/

namespace WorkflowRuns.Display

/-- A part of markup: words of the program, a number or time as it spells them, or a text from elsewhere. -/
inductive Piece
  | words (s : String)
  | figure (s : String)
  | text (s : String)
  deriving DecidableEq, Repr

namespace Piece

def markup : Piece → String
  | .words s => s
  | .figure s => s
  | .text s => escape s

def blank : Piece → Piece
  | .words s => .words s
  | .figure _ => .figure ""
  | .text _ => .text ""

def ownTags : Piece → List (List Char)
  | .words s => tagsAfter 0 s.toList
  | _ => []

end Piece

def markupOf (pieces : List Piece) : String := pieces.foldr (fun piece rest => piece.markup ++ rest) ""

def Unmarked (s : String) : Prop := ∀ c ∈ s.toList, c ≠ '[' ∧ c ≠ ']' ∧ c ≠ '\\'

instance (s : String) : Decidable (Unmarked s) :=
  List.decidableBAll (fun c => c ≠ '[' ∧ c ≠ ']' ∧ c ≠ '\\') s.toList

def Piece.unclosing : List Piece → Bool
  | [] => true
  | .words s :: rest =>
      match s.toList.find? isBracket with
      | some c => c = '['
      | none => unclosing rest
  | .figure _ :: rest => unclosing rest
  | .text _ :: _ => false

def Piece.separate : List Piece → Bool
  | [] => true
  | .words s :: rest => selfContained s.toList && separate rest
  | .figure _ :: rest => separate rest
  | .text _ :: rest => unclosing rest && separate rest

theorem markupOf_toList (piece : Piece) (rest : List Piece) :
    (markupOf (piece :: rest)).toList = piece.markup.toList ++ (markupOf rest).toList := by
  rw [markupOf, List.foldr_cons, String.toList_append]
  rfl

namespace Unmarked

theorem empty : Unmarked "" := nofun

theorem append {s t : String} (first : Unmarked s) (second : Unmarked t) : Unmarked (s ++ t) := by
  intro c member
  rw [String.toList_append, List.mem_append] at member
  exact member.elim (first c) (second c)

theorem bracketless {s : String} (unmarked : Unmarked s) : s.toList.find? isBracket = none := by
  rw [List.find?_eq_none]
  intro c member bracket
  rw [isBracket, Bool.or_eq_true, decide_eq_true_eq, decide_eq_true_eq] at bracket
  exact bracket.elim (unmarked c member).1 (unmarked c member).2.1

theorem tagsAfter_append {s : String} (unmarked : Unmarked s) (after : List Char) :
    tagsAfter 0 (s.toList ++ after) = tagsAfter 0 after := by
  unfold Unmarked at unmarked
  generalize s.toList = chars at unmarked
  induction chars with
  | nil => rfl
  | cons c rest ih =>
      obtain ⟨first, others⟩ := List.forall_mem_cons.mp unmarked
      rw [List.cons_append, tagsAfter, if_neg first.2.2, if_neg fun tag => first.1 tag.1, ih others]

end Unmarked

section Pieces

variable {pieces : List Piece}

theorem closes_markupOf (unclosing : Piece.unclosing pieces = true)
    (figures : ∀ f, Piece.figure f ∈ pieces → Unmarked f) : closes (markupOf pieces).toList = false := by
  induction pieces with
  | nil => rfl
  | cons piece rest ih =>
      have others := fun f member => figures f (List.mem_cons_of_mem piece member)
      rw [markupOf_toList]
      cases piece with
      | words s =>
          rw [Piece.unclosing] at unclosing
          cases first : s.toList.find? isBracket with
          | none =>
              rw [first] at unclosing
              exact (closes_append_none first).trans (ih unclosing others)
          | some c =>
              rw [first] at unclosing
              rw [Piece.markup, closes_append_some first, of_decide_eq_true unclosing]
              rfl
      | figure f =>
          exact (closes_append_none (figures f List.mem_cons_self).bracketless).trans (ih unclosing others)
      | text => cases unclosing

theorem tagsAfter_markupOf (separate : Piece.separate pieces = true)
    (figures : ∀ f, Piece.figure f ∈ pieces → Unmarked f) (texts : ∀ t, Piece.text t ∈ pieces → Sealed t) :
    tagsAfter 0 (markupOf pieces).toList = pieces.flatMap Piece.ownTags := by
  induction pieces with
  | nil => rfl
  | cons piece rest ih =>
      have others := fun f member => figures f (List.mem_cons_of_mem piece member)
      have texts' := fun t member => texts t (List.mem_cons_of_mem piece member)
      rw [markupOf_toList, List.flatMap_cons]
      cases piece with
      | words s =>
          rw [Piece.separate, Bool.and_eq_true] at separate
          rw [Piece.markup, tagsAfter_append separate.1, ih separate.2 others texts']
          rfl
      | figure f =>
          rw [Piece.markup, (figures f List.mem_cons_self).tagsAfter_append, ih separate others texts']
          rfl
      | text t =>
          rw [Piece.separate, Bool.and_eq_true] at separate
          rw [Piece.markup, tagsAfter_escape t (closes_markupOf separate.1 others), if_pos (texts t List.mem_cons_self),
            ih separate.2 others texts']
          rfl

theorem unclosing_blank : Piece.unclosing (pieces.map Piece.blank) = Piece.unclosing pieces := by
  induction pieces with
  | nil => rfl
  | cons piece rest ih =>
      cases piece with
      | words s => rw [List.map_cons, Piece.blank, Piece.unclosing, Piece.unclosing, ih]
      | figure => exact ih
      | text => rfl

theorem separate_blank : Piece.separate (pieces.map Piece.blank) = Piece.separate pieces := by
  induction pieces with
  | nil => rfl
  | cons piece rest ih =>
      cases piece with
      | words s => rw [List.map_cons, Piece.blank, Piece.separate, Piece.separate, ih]
      | figure => exact ih
      | text => rw [List.map_cons, Piece.blank, Piece.separate, Piece.separate, unclosing_blank, ih]

theorem ownTags_blank : (pieces.map Piece.blank).flatMap Piece.ownTags = pieces.flatMap Piece.ownTags := by
  rw [List.flatMap_map]
  congr 1
  funext piece
  cases piece <;> rfl

theorem tags_blank (separate : Piece.separate pieces = true) (figures : ∀ f, Piece.figure f ∈ pieces → Unmarked f)
    (texts : ∀ t, Piece.text t ∈ pieces → Sealed t) : tags (markupOf pieces) = tags (markupOf (pieces.map Piece.blank)) := by
  have blanks : ∀ {piece : Piece}, piece ∈ pieces.map Piece.blank →
      (∀ f, piece = .figure f → f = "") ∧ ∀ t, piece = .text t → t = "" := by
    intro piece member
    obtain ⟨given, _, rfl⟩ := List.mem_map.mp member
    cases given <;> simp [Piece.blank]
  rw [tags, tags, tagsAfter_markupOf separate figures texts, ← ownTags_blank, ← tagsAfter_markupOf]
  · rwa [separate_blank]
  · intro f member
    rw [(blanks member).1 f rfl]
    exact .empty
  · intro t member
    rw [(blanks member).2 t rfl]
    decide

end Pieces

/-- Markup that is the same each time. -/
def fixedWords : List String :=
  ["", "-", "[dim]Empty workflow[/]", "[red]No entry node (graph is cyclic)[/]", "[dim]... (max depth reached)[/]",
    "Node", "Type", "Status", "Duration", "Output", "Started", "Logs", "ID", "Error",
    "Nodes", "Reported Nodes", "Result", "Meta", "Error Details", "Workflow Status", "Workflow Graph", "Node Status",
    "Node Results", "Log Filters", "Execution Logs", "Progress",
    "Total Nodes", "Started At", "Ended At",
    "[dim]No workflow submitted[/]", "[yellow]● Waiting for first status...[/]", "[green]● Live monitoring active[/]",
    "[yellow]⚠ Status request failed, showing previous data: unknown error[/]",
    "[red bold]✗ Connection lost - showing last known state[/]", "[green]✓ Workflow completed successfully[/]",
    "[red]✗ Workflow execution failed[/]", "[dim]Polling stopped[/]", "[dim]Waiting for first status...[/]",
    "[red]Error validating workflow:[/red]", "[red]Error validating workflow schema:[/red]",
    "[red]Error validating configuration:[/red]", "[red]Validation errors:[/red]",
    "[green]Workflow validation passed[/green]", "[dim]No logs available for the selected filter[/dim]",
    "[yellow]Project already initialized[/yellow]",
    "manualStartNode", "httpRequestNode", "waitingNode",
    "[dim]○ Pending[/]", "[yellow bold]⟳ Running[/]", "[green]✓ Success[/]", "[red bold]✗ Error[/]",
    "[dim strikethrough]⊘ Skipped[/]", "[yellow bold]RUNNING[/]", "[green]SUCCESS[/]", "[red bold]ERROR[/]",
    "[dim strikethrough]SKIPPED[/]", "[bold]Status:[/] [green]✓ Success[/]", "[bold]Status:[/] [red bold]✗ Error[/]",
    "[bold]Status:[/] [dim strikethrough]⊘ Skipped[/]"]

def aroundText : List (String × String) :=
  [("", ""), ("[bold]", "[/]"), ("[red]", "[/]"), ("[dim]↩ ", " (loop)[/]"), ("Run: ", "..."), ("Node: ", ""),
    ("[bold]ID:[/] ", ""), ("[bold]Type:[/] ", ""), ("[yellow]No execution data for ", "[/]"),
    ("[dim]Workflow ID:[/] ", ""), ("[bold green]✓ Completed:[/] ", ""), ("[bold red]✗ Failed:[/] ", ""),
    ("[bold blue]⟳ Executing:[/] ", ""), ("[yellow]⚠ Status request failed, showing previous data: ", "[/]"),
    ("[red]Error parsing workflow file '", "':[/red]"), ("  ", ""), ("  - ", ""), ("[red]Error:[/red] ", ""),
    ("[red]Error:[/red] Invalid YAML in .flowmon/config.yaml: ", ""), ("[blue]Started execution: ", "[/blue]"),
    ("[yellow]No logs for filter '", "'[/yellow]"), ("[dim]Available: ", "[/dim]")]

def aroundFigure : List (String × String) :=
  [("", ""), ("", "%"), ("Logs (", ")"), ("[bold]Started:[/] ", ""), ("[bold]Duration:[/] ", ""), ("  Nodes: ", ""),
    ("  Edges: ", "")]

def treeTag (kind : NodeKind) : NodeStatus → String
  | .pending => match kind with
      | .manualStart => "[cyan]"
      | .httpRequest => "[magenta]"
      | .wait => "[blue]"
  | .success => "[green]"
  | .error => "[red bold]"
  | .skipped => "[dim strikethrough]"

def nodePieces (kind : NodeKind) (status : NodeStatus) (id : String) (summary duration : Option String) : List Piece :=
  [.words (treeTag kind status), .words (kindSymbol kind), .words " ", .text id, .words (indicator status), .words "[/]"]
    ++ summary.elim [] (fun s => [.words " [dim]", .text s, .words "[/]"])
    ++ duration.elim [] (fun d => [.words " [dim](", .figure d, .words ")[/]"])

inductive Template : List Piece → Prop
  | words {s : String} (member : s ∈ fixedWords) : Template [.words s]
  | text {before after : String} (member : (before, after) ∈ aroundText) :
      Template [.words before, .text "", .words after]
  | figure {before after : String} (member : (before, after) ∈ aroundFigure) :
      Template [.words before, .figure "", .words after]
  | node (kind : NodeKind) (status : NodeStatus) (described timed : Bool) :
      Template (nodePieces kind status "" (if described then some "" else none) (if timed then some "" else none))

theorem selfContained_ofList {chars : List Char} (contained : selfContained chars = true) :
    selfContained (String.ofList chars).toList = true := by
  rwa [String.toList_ofList]

theorem find?_ofList {chars : List Char} {found : Option Char} (first : chars.find? isBracket = found) :
    (String.ofList chars).toList.find? isBracket = found := by
  rwa [String.toList_ofList]

theorem fixedWords_contained : ∀ s ∈ fixedWords, selfContained s.toList = true := by
  unfold fixedWords
  repeat refine List.forall_mem_cons.mpr ⟨selfContained_ofList (by decide +kernel), ?_⟩
  exact List.forall_mem_nil _

theorem aroundText_separate : ∀ pair ∈ aroundText, selfContained pair.1.toList = true ∧
    selfContained pair.2.toList = true ∧ pair.2.toList.find? isBracket ≠ some ']' := by
  unfold aroundText
  repeat
    refine List.forall_mem_cons.mpr ⟨⟨selfContained_ofList (by decide +kernel), selfContained_ofList (by decide +kernel),
      fun closing => ?_⟩, ?_⟩
    · cases (find?_ofList rfl).symm.trans closing
  exact List.forall_mem_nil _

theorem aroundFigure_contained : ∀ pair ∈ aroundFigure, selfContained pair.1.toList = true ∧
    selfContained pair.2.toList = true := by
  unfold aroundFigure
  repeat
    refine List.forall_mem_cons.mpr ⟨⟨selfContained_ofList (by decide +kernel), selfContained_ofList (by decide +kernel)⟩, ?_⟩
  exact List.forall_mem_nil _

theorem treeTag_contained (kind : NodeKind) (status : NodeStatus) : selfContained (treeTag kind status).toList = true := by
  cases kind <;> cases status <;> exact selfContained_ofList (by decide +kernel)

theorem kindSymbol_contained (kind : NodeKind) : selfContained (kindSymbol kind).toList = true := by
  cases kind <;> exact selfContained_ofList (by decide +kernel)

theorem indicator_contained (status : NodeStatus) : selfContained (indicator status).toList = true ∧
    (indicator status).toList.find? isBracket = none := by
  cases status <;> exact ⟨selfContained_ofList (by decide +kernel), find?_ofList (by decide +kernel)⟩

theorem Template.separate {pieces : List Piece} (template : Template pieces) : Piece.separate pieces = true := by
  cases template with
  | words member => simp [Piece.separate, fixedWords_contained _ member]
  | @text before after member =>
      obtain ⟨first, second, unclosing⟩ := aroundText_separate _ member
      have other : Piece.unclosing [.words after] = true := by
        rw [Piece.unclosing]
        split
        next c found =>
          have bracket := List.find?_some found
          rw [isBracket, Bool.or_eq_true, decide_eq_true_eq, decide_eq_true_eq] at bracket
          exact decide_eq_true (bracket.resolve_right fun closing => unclosing (closing ▸ found))
        next => rfl
      simp [Piece.separate, first, second, other]
  | figure member =>
      obtain ⟨first, second⟩ := aroundFigure_contained _ member
      simp [Piece.separate, first, second]
  | node kind status described timed =>
      cases described <;> cases timed <;>
        simp [nodePieces, Piece.separate, Piece.unclosing, treeTag_contained, kindSymbol_contained,
          indicator_contained, selfContained, decides, startsTag, isBracket]

structure Fills (pieces : List Piece) (markup : String) : Prop where
  template : Template (pieces.map Piece.blank)
  figures : ∀ f, Piece.figure f ∈ pieces → Unmarked f
  spelled : markupOf pieces = markup

/-- Markup in which all text from elsewhere is escaped, in a place that the program has for it. -/
def Templated (markup : String) : Prop := ∃ pieces, Fills pieces markup

theorem Fills.tags {pieces : List Piece} {markup : String} (fills : Fills pieces markup)
    (texts : ∀ t, Piece.text t ∈ pieces → Sealed t) :
    Display.tags markup = Display.tags (markupOf (pieces.map Piece.blank)) := by
  have separate := fills.template.separate
  rw [separate_blank] at separate
  rw [← fills.spelled]
  exact tags_blank separate fills.figures texts

/-- Markup by a template that has the tags of the template.  Only the end of a text that is not sealed can make a
difference to them. -/
def Inert (markup : String) : Prop :=
  ∃ pieces, Fills pieces markup ∧ ((∀ t, Piece.text t ∈ pieces → Sealed t) →
    tags markup = tags (markupOf (pieces.map Piece.blank)))

namespace Templated

theorem inert {markup : String} (templated : Templated markup) : Inert markup := by
  obtain ⟨pieces, fills⟩ := templated
  exact ⟨pieces, fills, fills.tags⟩

theorem words {markup : String} (member : markup ∈ fixedWords) : Templated markup :=
  ⟨[.words markup], .words member, nofun, String.append_empty⟩

theorem text {before after markup : String} (member : (before, after) ∈ aroundText) (t : String)
    (spelled : before ++ escape t ++ after = markup) : Templated markup := by
  refine ⟨[.words before, .text t, .words after], .text member, by simp, ?_⟩
  rw [← spelled, String.append_assoc]
  simp [markupOf, Piece.markup]

theorem figure {before after markup f : String} (member : (before, after) ∈ aroundFigure) (unmarked : Unmarked f)
    (spelled : before ++ f ++ after = markup) : Templated markup := by
  refine ⟨[.words before, .figure f, .words after], .figure member, by simpa using unmarked, ?_⟩
  rw [← spelled, String.append_assoc]
  simp [markupOf, Piece.markup]

theorem escaped (t : String) : Templated (escape t) := text (by decide : ("", "") ∈ aroundText) t (by simp)

theorem unmarked {f : String} (unmarked : Unmarked f) : Templated f :=
  figure (by decide : ("", "") ∈ aroundFigure) unmarked (by simp)

end Templated

end WorkflowRuns.Display
