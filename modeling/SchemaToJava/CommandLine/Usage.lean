import SchemaToJava.Text.Quoted

/-!
What can be wrong with a command line itself, before any command runs.
-/

namespace SchemaToJava.CommandLine

inductive Refusal where
  | notAChoice (given : String) (choices : List String)
  | notABoolean (given : String) (words : List String)
  | missingPath (what given : String)
  | isFile (what given : String)
  | isDirectory (what given : String)
  deriving DecidableEq, Repr

inductive UsageError where
  | noSuchOption (name : String)
  | noSuchCommand (name : String)
  | missingCommand
  | argumentMissing (option : String)
  | argumentGiven (option : String)
  | badValue (spellings : List String) (why : Refusal)
  | extraArguments (first : String) (rest : List String)
  deriving DecidableEq, Repr

open Text

def Refusal.text : Refusal → String
  | notAChoice given choices =>
    quoted given ++ " is not one of " ++ ", ".intercalate (choices.map quoted) ++ "."
  | notABoolean given words =>
    quoted given ++ " is not a valid boolean. Recognized values: " ++ ", ".intercalate words
  | missingPath what given => s!"{what} {quoted given} does not exist."
  | isFile what given => s!"{what} {quoted given} is a file."
  | isDirectory what given => s!"{what} {quoted given} is a directory."

def UsageError.message : UsageError → String
  | noSuchOption name => s!"No such option {quoted name}."
  | noSuchCommand name => s!"No such command {quoted name}."
  | missingCommand => "Missing command."
  | argumentMissing option => s!"Option {quoted option} requires an argument."
  | argumentGiven option => s!"Option {quoted option} does not take a value."
  | badValue spellings why =>
    let names := " / ".intercalate (spellings.map fun s => s!"'{s}'")
    s!"Invalid value for {names}: {why.text}"
  | extraArguments first [] => s!"Got unexpected extra argument ({first})"
  | extraArguments first rest =>
    "Got unexpected extra arguments (" ++ " ".intercalate (first :: rest) ++ ")"

end SchemaToJava.CommandLine
