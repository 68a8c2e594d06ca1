import SchemaToJava.CommandLine.Options
import SchemaToJava.Run

/-!
Completion of command lines. A shell asks for it through a variable of the environment instead of
starting the program in earnest: it names itself and says what it wants. Requests are checked and
answered by an exit code; no words are offered.
-/

namespace SchemaToJava.CommandLine.Completion

/-- The shells that can ask. Fish gives the word to complete by itself, the others its number. -/
inductive Shell where
  | bash
  | zsh
  | fish
  deriving DecidableEq, Repr

namespace Shell

def all : List Shell := [bash, zsh, fish]

def name : Shell → String
  | bash => "bash"
  | zsh => "zsh"
  | fish => "fish"

def ofName? (name : String) : Option Shell := all.find? (·.name == name)

end Shell

def requestVariable : String := "_DGS_CODEGEN_COMPLETE"

def lineVariable : String := "COMP_WORDS"

def wordVariable : String := "COMP_CWORD"

inductive Wish where
  | script
  | words
  deriving DecidableEq, Repr

def Wish.ofName? (name : String) : Option Wish :=
  if name = "source" then some .script else if name = "complete" then some .words else none

/-- Reads a request: a shell and its wish, parted by the first underscore. -/
def request? (text : String) : Option (Shell × Wish) := do
  let cs := text.toList
  let shell ← Shell.ofName? (String.ofList (cs.takeWhile (· != '_')))
  let wish ← Wish.ofName? (String.ofList ((cs.dropWhile (· != '_')).drop 1))
  return (shell, wish)

def needed (env : Environment) (name : String) : Except Fault String :=
  match env.lookup name with
  | some v => .ok v
  | none => .error (.noVariable name)

def checkLine (shell : Shell) (env : Environment) : Except Fault Unit := do
  let _ ← needed env lineVariable
  let word ← needed env wordVariable
  unless shell = .fish do
    let _ ← (Text.readInteger 10 (.ofString word)).mapError .integer

/-- The exit code for a request: 1 unless it can be read. -/
def answer (env : Environment) (text : String) : Except Fault Nat :=
  match request? text with
  | none => .ok 1
  | some (_, .script) => .ok 0
  | some (shell, .words) => do
    checkLine shell env
    return 0

example : request? "zsh_source" = some (.zsh, .script) := by decide
example : request? "bash" = none := by decide

end SchemaToJava.CommandLine.Completion
