import SchemaToJava.Config.Setting

/-!
Settings given as arguments of the form `--key=value`. Other arguments mean nothing here.
-/

namespace SchemaToJava.Config

def keyValue? (argument : String) : Option (String × String) :=
  let cs := argument.toList
  if cs.contains '=' then
    some (String.ofList ((cs.takeWhile (· != '=')).dropWhile (· == '-')),
      String.ofList ((cs.dropWhile (· != '=')).drop 1))
  else none

/-- The keys and values of some arguments. A key keeps its first place and its last value. -/
def ofArguments (arguments : List String) : Entries String String :=
  Entries.putAll [] (arguments.filterMap keyValue?)

def Settings.ofTexts (entries : Entries String String) : Settings :=
  entries.map fun (k, v) => (k, .ofText v)

example : ofArguments ["--a=1", "x", "-b=", "a=2=3"] = [("a", "2=3"), ("b", "")] := by decide

end SchemaToJava.Config
