import SchemaToJava.CommandLine.Usage
import SchemaToJava.FileTree
import SchemaToJava.Text.Blank

/-!
Options of a command: how they are spelled, how they are found among the arguments, and where their
values come from when they are not given. The last value of an option counts, but options are
checked in the order in which they were first given.
-/

namespace SchemaToJava.CommandLine

inductive Check where
  | anyText
  | choice (words : List String)
  | path (what : String) (mustExist fileAllowed directoryAllowed : Bool)
  deriving DecidableEq, Repr

/-- An option and what it is for. One without a check is a flag and takes no value; an eager one is
looked at before the others. -/
structure OptionSpec where
  name : String
  spellings : List String
  check : Option Check
  eager : Bool
  fallback : Option String
  about : String
  deriving DecidableEq, Repr

structure Given where
  name : String
  value : Option String
  deriving DecidableEq, Repr

structure Parsed where
  given : List Given
  rest : List String
  deriving DecidableEq, Repr

def isShort (spelling : String) : Bool := spelling.length = 2

def startsWith (start s : String) : Bool := start.toList.isPrefixOf s.toList

/-- What an argument that looks like an option says: some options, and perhaps one more that takes
its value from the next argument. -/
structure Reading where
  given : List Given
  waiting : Option (String × String)
  deriving DecidableEq, Repr

def readShort (options : List OptionSpec) : List Char → Except UsageError Reading
  | [] => .ok ⟨[], none⟩
  | c :: rest =>
    let spelling := String.ofList ['-', c]
    match options.find? (·.spellings.contains spelling) with
    | none => .error (.noSuchOption spelling)
    | some o =>
      if o.check.isNone then do
        let r ← readShort options rest
        return { r with given := ⟨o.name, none⟩ :: r.given }
      else if rest.isEmpty then .ok ⟨[], some (o.name, spelling)⟩
      else .ok ⟨[⟨o.name, some (String.ofList rest)⟩], none⟩

def readOption (options : List OptionSpec) (argument : String) : Except UsageError Reading :=
  let cs := argument.toList
  let long := String.ofList (cs.takeWhile (· != '='))
  let attached :=
    if cs.contains '=' then some (String.ofList ((cs.dropWhile (· != '=')).drop 1)) else none
  match options.find? fun o => !isShort long && o.spellings.contains long with
  | some o =>
    match o.check, attached with
    | none, none => .ok ⟨[⟨o.name, none⟩], none⟩
    | none, some _ => .error (.argumentGiven long)
    | some _, none => .ok ⟨[], some (o.name, long)⟩
    | some _, some v => .ok ⟨[⟨o.name, some v⟩], none⟩
  | none =>
    if startsWith "--" argument then .error (.noSuchOption long) else readShort options (cs.drop 1)

/-- Reads arguments. Unless `interspersed`, the first one that is no option ends the options. -/
def parse (options : List OptionSpec) (interspersed : Bool) : List String → Except UsageError Parsed
  | [] => .ok ⟨[], []⟩
  | argument :: rest =>
    if argument = "--" then .ok ⟨[], rest⟩
    else if startsWith "-" argument && argument != "-" then do
      let r ← readOption options argument
      match r.waiting with
      | none =>
        let p ← parse options interspersed rest
        return { p with given := r.given ++ p.given }
      | some (name, spelling) =>
        match rest with
        | [] => throw (.argumentMissing spelling)
        | v :: rest =>
          let p ← parse options interspersed rest
          return { p with given := r.given ++ ⟨name, some v⟩ :: p.given }
    else if interspersed then do
      let p ← parse options interspersed rest
      return { p with rest := argument :: p.rest }
    else .ok ⟨[], argument :: rest⟩

abbrev Environment := List (String × String)

def variableName (stem : String) (o : OptionSpec) : String :=
  stem ++ "_" ++ String.ofList (o.name.toList.map Char.toUpper)

def fromVariable (stem : String) (env : Environment) (o : OptionSpec) : Option String :=
  (env.lookup (variableName stem o)).filter (· != "")

/-- The value of an option: the last one given, else that of its variable, else the fallback. -/
def valueOf (stem : String) (env : Environment) (p : Parsed) (o : OptionSpec) : Option String :=
  match p.given.reverse.find? (·.name == o.name) with
  | some g => g.value
  | none => (fromVariable stem env o).or o.fallback

def isGiven (p : Parsed) (o : OptionSpec) : Bool := p.given.any (·.name == o.name)

def wordsForTrue : List String := ["1", "on", "t", "true", "y", "yes"]

def wordsForFalse : List String := ["", "0", "f", "false", "n", "no", "off"]

def flagOf (word : String) : Except Refusal Bool :=
  let w := String.ofList ((Text.trim word).toList.map Char.toLower)
  if wordsForTrue.contains w then .ok true
  else if wordsForFalse.contains w then .ok false
  else .error (.notABoolean word ((wordsForTrue ++ wordsForFalse).mergeSort fun a b => a ≤ b))

def flagIsSet (stem : String) (env : Environment) (p : Parsed) (o : OptionSpec) :
    Except Refusal Bool :=
  if isGiven p o then .ok true
  else ((fromVariable stem env o).map flagOf).getD (.ok false)

example : flagOf " Yes " = .ok true := rfl

/-- What a path as it is written leads to; a slash at its end asks for a directory, and one that is
written too long leads nowhere. -/
def entryAt (t : FileTree) (text : String) : Except FileError (Option Entry) :=
  let p := Path.ofText text
  if FileTree.hasNull p then .error .nullInPath
  else if text = "" || FileTree.longestPath < text.utf8ByteSize then .ok none
  else
    match t.find p with
    | .error _ => .ok none
    | .ok (.file bytes) =>
      let cs := text.toList
      if cs.getLast? = some '/' || ['/', '.'].isSuffixOf cs then .ok none
      else .ok (some (.file bytes))
    | .ok .directory => .ok (some .directory)

def refusal? (t : FileTree) (check : Check) (value : String) : Except FileError (Option Refusal) :=
  match check with
  | .anyText => .ok none
  | .choice words =>
    let word := String.ofList (value.toList.map Char.toLower)
    .ok (if words.contains word then none else some (.notAChoice value words))
  | .path what mustExist fileAllowed directoryAllowed => do
    match ← entryAt t value with
    | none => return if mustExist then some (.missingPath what value) else none
    | some (.file _) => return if fileAllowed then none else some (.isFile what value)
    | some .directory => return if directoryAllowed then none else some (.isDirectory what value)

/-- The options in the order in which they are looked at: eager ones first, then as they were first
given, then as they are declared. -/
def lookOrder (options : List OptionSpec) (p : Parsed) : List OptionSpec :=
  let names := (p.given.map (·.name)).eraseDups
  let asGiven := names.filterMap fun n => options.find? (·.name == n)
  let ordered := asGiven ++ options.filter (!isGiven p ·)
  ordered.filter (·.eager) ++ ordered.filter (!·.eager)

end SchemaToJava.CommandLine
