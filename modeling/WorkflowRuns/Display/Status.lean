import WorkflowRuns.Display.Markup
import WorkflowRuns.Text.Case
import WorkflowRuns.Value.Literal

/-!
How statuses and run ids are shown.
-/

namespace WorkflowRuns.Display

def pendingWord : String := "pending"

def statusKey (status : String) : String :=
  let key := Text.lower status
  if key = "" then pendingWord else key

def statusKeyOf : Value → String
  | .null => pendingWord
  | value => statusKey value.shown

def statusColors : List (String × String) :=
  [("pending", "dim"), ("running", "yellow bold"), ("success", "green"), ("error", "red bold"),
    ("skipped", "dim strikethrough")]

def statusLabels : List (String × String) :=
  [("pending", "○ Pending"), ("running", "⟳ Running"), ("success", "✓ Success"), ("error", "✗ Error"),
    ("skipped", "⊘ Skipped")]

def statusColor (status : String) : String := (statusColors.lookup (statusKey status)).getD "white"

def statusMarkup (status : String) : String :=
  let key := statusKey status
  styled (statusColor key) ((statusLabels.lookup key).getD (Text.upper key))

/-- So many characters from the start; a negative count leaves so many out at the end. -/
def leading (count : Int) (s : List Char) : List Char :=
  if 0 ≤ count then s.take count.toNat else s.take (s.length - count.natAbs)

/-- So many characters from the end; for a count that is not positive, all but so many at the start. -/
def trailing (count : Int) (s : List Char) : List Char :=
  if 0 < count then s.drop (s.length - count.toNat) else s.drop count.natAbs

def shortId (id : Option String) (keep : Int) : String :=
  match id with
  | none => "-"
  | some id =>
      let chars := id.toList
      if id = "" then "-"
      else if (chars.length : Int) ≤ keep * 2 + 3 then id
      else String.ofList (leading keep chars ++ "...".toList ++ trailing keep chars)

def shortRunId (id : Option String) : String := shortId id 8

end WorkflowRuns.Display
