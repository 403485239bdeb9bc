import WorkflowRuns.Text.Quoted
import WorkflowRuns.Text.Similarity

/-!
Options among the words of a command line.  A long option is a word after two hyphens and may carry
its value after an equals sign; letters after one hyphen are short options.
-/

namespace WorkflowRuns.Cli

inductive UsageError
  | noWords
  | missingCommand
  | noSuchCommand (name : String)
  | noSuchOption (word : String) (similar : List String)
  | missingValue (word : String)
  | unexpectedValue (word : String)
  | missingArgument (name : String)
  | noFile (name path : String)
  | folder (name path : String)
  | extraArguments (words : List String)
  deriving DecidableEq, Repr

def suggestion : List String → String
  | [] => ""
  | [only] => " Did you mean " ++ only ++ "?"
  | words => " (Possible options: " ++ ", ".intercalate words ++ ")"

def UsageError.message? : UsageError → Option String
  | .noWords => none
  | .missingCommand => some "Missing command."
  | .noSuchCommand name => some ("No such command " ++ Text.quoted name ++ ".")
  | .noSuchOption word similar => some ("No such option: " ++ word ++ suggestion similar)
  | .missingValue word => some ("Option " ++ Text.quoted word ++ " requires an argument.")
  | .unexpectedValue word => some ("Option " ++ Text.quoted word ++ " does not take a value.")
  | .missingArgument name => some ("Missing argument '" ++ name ++ "'.")
  | .noFile name path =>
      some ("Invalid value for '" ++ name ++ "': File " ++ Text.quoted path ++ " does not exist.")
  | .folder name path =>
      some ("Invalid value for '" ++ name ++ "': File " ++ Text.quoted path ++ " is a directory.")
  | .extraArguments words =>
      some ("Got unexpected extra argument" ++ (if words.length = 1 then "" else "s") ++ " ("
        ++ " ".intercalate words ++ ")")

inductive Meaning (α : Type)
  | mark (meaning : α)
  | valued (meaning : String → α)

abbrev Vocabulary (α : Type) := List (String × Meaning α)

namespace Vocabulary

variable {α : Type}

def isLong (word : String) : Bool := word.startsWith "--"

def longWords (v : Vocabulary α) : List String := (v.map (·.1)).filter isLong

def splitValue (word : String) : String × Option String :=
  let chars := word.toList
  match chars.dropWhile (· ≠ '=') with
  | [] => (word, none)
  | _ :: value => (String.ofList (chars.takeWhile (· ≠ '=')), some (String.ofList value))

/-- What a word says: some options, or an option whose value is the next word. -/
inductive Reading (α : Type)
  | options (meanings : List α)
  | awaiting (word : String) (meaning : String → α)

def readLetters (v : Vocabulary α) : List Char → Except UsageError (List α)
  | [] => .ok []
  | c :: rest =>
      let word := String.ofList ['-', c]
      match v.lookup word with
      | some (.mark meaning) => (readLetters v rest).map (meaning :: ·)
      | _ => .error (.noSuchOption word [])

def readOption (v : Vocabulary α) (word : String) : Except UsageError (Reading α) :=
  if isLong word then
    let (name, value) := splitValue word
    match v.lookup name, value with
    | none, _ => .error (.noSuchOption name (Text.suggestions name v.longWords))
    | some (.mark meaning), none => .ok (.options [meaning])
    | some (.mark _), some _ => .error (.unexpectedValue name)
    | some (.valued meaning), some value => .ok (.options [meaning value])
    | some (.valued meaning), none => .ok (.awaiting name meaning)
  else (v.readLetters (word.toList.drop 1)).map .options

def isOption (word : String) : Bool := word.startsWith "-" && word ≠ "-"

/-- The options among the words, and the other words.  Two hyphens end the options, and so does the
first other word unless both may be mixed. -/
def read (v : Vocabulary α) (mixed : Bool) : List String → Except UsageError (List α × List String)
  | [] => .ok ([], [])
  | word :: rest =>
      if word = "--" then .ok ([], rest)
      else if !isOption word then
        if mixed then (v.read mixed rest).map fun (options, others) => (options, word :: others)
        else .ok ([], word :: rest)
      else match v.readOption word with
        | .error e => .error e
        | .ok (.options meanings) =>
            (v.read mixed rest).map fun (options, others) => (meanings ++ options, others)
        | .ok (.awaiting name meaning) =>
            match rest with
            | [] => .error (.missingValue name)
            | value :: rest =>
                (v.read mixed rest).map fun (options, others) => (meaning value :: options, others)

end Vocabulary

end WorkflowRuns.Cli
