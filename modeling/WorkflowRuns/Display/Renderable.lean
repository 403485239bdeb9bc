/-!
What is put on the terminal, as structure: markup, styled text, trees, tables, panels and groups.
-/

namespace WorkflowRuns.Display

/-- A style on the characters from `first` up to, but not with, `past`. -/
structure Span where
  first : Nat
  past : Nat
  style : String
  deriving DecidableEq, Repr

structure StyledText where
  plain : String
  style : String
  spans : List Span
  deriving DecidableEq, Repr

namespace StyledText

/-- Control characters that would move the cursor do not show. -/
def isCursorControl (c : Char) : Bool :=
  c.toNat = 7 || c.toNat = 8 || (11 ≤ c.toNat && c.toNat ≤ 13)

def visible (s : String) : String := String.ofList (s.toList.filter fun c => !isCursorControl c)

def of (s style : String) : StyledText := ⟨visible s, style, []⟩

def append (t : StyledText) (s style : String) : StyledText :=
  let plain := t.plain ++ visible s
  if s = "" then t
  else if style = "" then { t with plain }
  else { t with plain, spans := t.spans ++ [⟨t.plain.length, plain.length, style⟩] }

end StyledText

inductive Tree
  | branch (label : String) (children : List Tree)
  deriving Repr

inductive Justify
  | left
  | center
  | right
  deriving DecidableEq, Repr

def Justify.word : Justify → String
  | .left => "left"
  | .center => "center"
  | .right => "right"

structure Column where
  header : String
  style : String
  justify : Justify
  width : Option Nat
  maxWidth : Option Nat
  ratio : Option Nat
  deriving DecidableEq, Repr

def Column.plain (header style : String) (justify : Justify) : Column :=
  ⟨header, style, justify, none, none, none⟩

inductive Cell
  | markup (s : String)
  | bar (completed total : Nat)
  deriving DecidableEq, Repr

structure Table where
  title : Option String
  columns : List Column
  rows : List (List Cell)
  deriving DecidableEq, Repr

/-- A title and a style for the frame and for what is in it. -/
structure Frame where
  title : Option String
  subtitle : Option String
  style : String
  borderStyle : String
  deriving DecidableEq, Repr

def Frame.plain : Frame := ⟨none, none, "none", "none"⟩

def Frame.titled (title : String) : Frame := { Frame.plain with title := some title }

inductive Renderable
  | markup (s : String)
  | text (t : StyledText)
  | tree (t : Tree)
  | table (t : Table)
  | panel (content : Renderable) (frame : Frame)
  | group (items : List Renderable)
  | code (s : String)
  deriving Repr

end WorkflowRuns.Display
