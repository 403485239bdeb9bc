import WorkflowRuns.Display.Markup
import WorkflowRuns.Display.Monitor

/-!
Renderables as lines of text without styles.
-/

namespace WorkflowRuns.Display

/-- Markup without its tags; `slashes` backslashes stand before the rest.  Half of those in front of a
tag escape the other half, and one that is left over makes the tag plain text. -/
def withoutTags (slashes : Nat) (inTag : Bool) : List Char → List Char
  | [] => List.replicate slashes '\\'
  | c :: rest =>
      if inTag then withoutTags 0 (c ≠ ']') rest
      else if c = '\\' then withoutTags (slashes + 1) false rest
      else if c = '[' ∧ isTag rest then
        List.replicate (slashes / 2) '\\'
          ++ if slashes % 2 = 1 then c :: withoutTags 0 false rest else withoutTags 0 true rest
      else List.replicate slashes '\\' ++ c :: withoutTags 0 false rest

def unmarked (s : String) : String := String.ofList (withoutTags 0 false s.toList)

def textLines (s : String) : List String := s.splitOn "\n"

def indented (lines : List String) : List String := lines.map ("  " ++ ·)

mutual
def Tree.lines : Tree → List String
  | .branch label children => unmarked label :: indented (treeLines children)

def treeLines : List Tree → List String
  | [] => []
  | tree :: rest => tree.lines ++ treeLines rest
end

def Cell.plain : Cell → String
  | .markup s => unmarked s
  | .bar completed total => toString completed ++ "/" ++ toString total

def Table.lines (t : Table) : List String :=
  let headers := t.columns.map fun column => unmarked column.header
  t.title.toList.map unmarked ++ (if headers.all String.isEmpty then [] else ["  ".intercalate headers])
    ++ t.rows.map fun row => "  ".intercalate (row.map Cell.plain)

mutual
def Renderable.lines : Renderable → List String
  | .markup s => textLines (unmarked s)
  | .text t => textLines t.plain
  | .tree t => t.lines
  | .table t => t.lines
  | .panel content frame =>
      frame.title.toList.map unmarked ++ indented content.lines ++ frame.subtitle.toList.map unmarked
  | .group items => renderableLines items
  | .code s => textLines s

def renderableLines : List Renderable → List String
  | [] => []
  | item :: rest => item.lines ++ renderableLines rest
end

def Layout.lines (l : Layout) : List String := renderableLines [l.header, l.graph, l.status, l.logs, l.footer]

end WorkflowRuns.Display
