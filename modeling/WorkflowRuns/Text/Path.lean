/-!
Names of files: their plain form and their extension.
-/

namespace WorkflowRuns.Text

def pathParts : List Char → List (List Char)
  | [] => [[]]
  | c :: rest =>
      if c = '/' then [] :: pathParts rest
      else match pathParts rest with
        | first :: others => (c :: first) :: others
        | [] => [[c]]

/-- A path without empty parts and single dots; one that has nothing else is a dot. -/
def plainPath (path : String) : String :=
  let chars := path.toList
  let parts := (pathParts chars).filter fun part => part ≠ [] && part ≠ ['.']
  let root := if chars.head? = some '/' then "/" else ""
  let body := root ++ "/".intercalate (parts.map String.ofList)
  if body = "" then "." else body

/-- What follows the last dot of the last part, unless the dot is first or last in it. -/
def extension (path : String) : String :=
  let name := ((pathParts (plainPath path).toList).getLast?).getD []
  let back := name.reverse
  let after := (back.takeWhile (· ≠ '.')).reverse
  let before := (back.dropWhile (· ≠ '.')).tail
  if before.isEmpty || after.isEmpty then "" else String.ofList after

def plainLines : List Char → List Char
  | '\r' :: '\n' :: rest => '\n' :: plainLines rest
  | '\r' :: rest => '\n' :: plainLines rest
  | c :: rest => c :: plainLines rest
  | [] => []

end WorkflowRuns.Text
