import SchemaToJava.CommandLine.Help

/-!
What a console without colours shows: the text of a run's output with its tags left out, and one
line about how the program ended where the output does not tell.
-/

namespace SchemaToJava.CommandLine

/-- The text of an output. A rule is drawn around its title; events name their level. -/
def outputText : Output → String
  | .event e => s!"{e.level.name}: {e.text}"
  | .rule title => "---- " ++ Markup.shown title ++ " ----"
  | .line text => Markup.shown text

def Exit.answer : Exit → String
  | .version => versionText
  | .help c => Help.page c
  | _ => ""

def Exit.complaint : Exit → String
  | .usage e => s!"Error: {e.message}\n"
  | .code 2 => Help.page none
  | _ => ""

end SchemaToJava.CommandLine
