import SchemaToJava.CommandLine.Program
import SchemaToJava.Text.Columns

/-!
What the program tells about itself and its commands: a page of a fixed width with the usage, and
the options and commands in frames.
-/

namespace SchemaToJava.CommandLine.Help

open Text

def pageWidth : Nat := 80

def frameWidth : Nat := pageWidth - 4

def frame (title : String) (lines : List (List Char)) : List (List Char) :=
  let top := "╭─ ".toList ++ title.toList ++ [' ']
  let line (cs : List Char) : List Char := "│ ".toList ++ padded frameWidth cs ++ " │".toList
  (top ++ List.replicate (pageWidth - 1 - top.length) '─' ++ ['╮']) :: lines.map line ++
    ['╰' :: List.replicate (pageWidth - 2) '─' ++ ['╯']]

def valueName (o : OptionSpec) : String :=
  match o.check with
  | none => ""
  | some .anyText => "TEXT"
  | some (.choice words) => "[" ++ "|".intercalate words ++ "]"
  | some (.path what ..) => String.ofList (what.toList.map Char.toUpper)

def spelling (o : OptionSpec) (short : Bool) : String :=
  (o.spellings.find? (isShort · == short)).getD ""

def widthOf (texts : List String) : Nat :=
  texts.foldl (fun n s => if n < s.length then s.length else n) 0

/-- The lines about options: their names, their values, and what they are for. A column in which
nothing stands is left out; values take no more than half of what the names leave. -/
def optionLines (options : List OptionSpec) : List (List Char) :=
  let kinds := [false, true].filter fun short => options.any (spelling · short != "")
  let nameWidths := kinds.map fun short => widthOf (options.map (spelling · short))
  let gap := columnGap.length
  let room := frameWidth - nameWidths.foldl (fun n width => n + width + gap) 0
  let needed := widthOf (options.map valueName)
  let valueWidth := if needed ≤ (room - gap) / 2 then needed else (room - gap) / 2
  let widths := nameWidths ++ [valueWidth, room - gap - valueWidth]
  options.flatMap fun o =>
    sideBySide widths ((kinds.map (spelling o) ++ [valueName o, o.about]).map String.toList)

def commandLines (commands : List Command) : List (List Char) :=
  let nameWidth := widthOf (commands.map (·.name))
  let widths := [nameWidth, frameWidth - columnGap.length - nameWidth]
  commands.flatMap fun c => sideBySide widths [c.name.toList, c.about.toList]

def usage : Option Command → String
  | none => "Usage: dgs-codegen [OPTIONS] COMMAND [ARGS]..."
  | some c => s!"Usage: dgs-codegen {c.name} [OPTIONS]"

def about : Option Command → String
  | none =>
    "Generate Netflix DGS data fetcher interfaces and data classes from GraphQL schema files."
  | some c => c.about

def page (c : Option Command) : String :=
  let text (s : String) : List (List Char) :=
    (wrap (pageWidth - 2) s.toList).map fun line => padded pageWidth (' ' :: line)
  let blank := padded pageWidth []
  let head := blank :: text (usage c) ++ blank :: text (about c) ++ [blank]
  let commands := if c.isNone then frame "Commands" (commandLines Command.all) else []
  let lines := head ++ frame "Options" (optionLines (optionsOf c)) ++ commands
  String.ofList (lines.flatMap (· ++ ['\n']))

end SchemaToJava.CommandLine.Help
