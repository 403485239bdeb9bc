import WorkflowRuns.Text.Path

/-!
The directory that a command works in, as seen through the paths that lead from it.
-/

namespace WorkflowRuns.Cli

inductive Entry
  | file (text : String)
  | folder
  deriving DecidableEq, Repr

abbrev Directory := String → Option Entry

def Entry.text? : Entry → Option String
  | .file text => some text
  | .folder => none

namespace Directory

abbrev Files := List (String × String)

def partsOf (path : String) : List String := (Text.pathParts path.toList).map String.ofList

def file? (files : Files) (parts : List String) : Option String :=
  (files.find? fun (path, _) => partsOf path = parts).map (·.2)

def isFolder (files : Files) (parts : List String) : Bool :=
  files.any fun (path, _) => parts.isPrefixOf (partsOf path) && parts ≠ partsOf path

/-- Where the rest of a path leads from a folder, given by its names from the innermost one, or by
how many levels it is above the directory.  Nothing but folders is known above. -/
def walk (files : Files) (above : Nat) (inside : List String) : List String → Option Entry
  | [] => some .folder
  | part :: rest =>
      if part = "" ∨ part = "." then walk files above inside rest
      else if part = ".." then
        match inside with
        | [] => walk files (above + 1) [] rest
        | _ :: outer => walk files above outer rest
      else if above ≠ 0 then none
      else
        let parts := (part :: inside).reverse
        match file? files parts with
        | some text => if rest.isEmpty then some (.file text) else none
        | none => if isFolder files parts then walk files above (part :: inside) rest else none

/-- A directory that holds these files; of the folders above it only the root is known by name. -/
def ofFiles (files : Files) : Directory := fun path =>
  match path.toList with
  | [] => none
  | '/' :: _ => walk [] 0 [] (partsOf path)
  | _ => walk files 0 [] (partsOf path)

end Directory

end WorkflowRuns.Cli
