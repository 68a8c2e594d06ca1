import SchemaToJava.CommandLine.Commands
import SchemaToJava.CommandLine.Completion
import SchemaToJava.CommandLine.Options
import SchemaToJava.Text.Alphanumeric

/-!
The program: options that hold for every command, then a command with options of its own.
-/

namespace SchemaToJava.CommandLine

inductive Command where
  | generate
  | init
  deriving DecidableEq, Repr

namespace Command

def all : List Command := [generate, init]

def name : Command → String
  | generate => "generate"
  | init => "init"

def about : Command → String
  | generate => "Generate DGS Java sources from every schema file in the schema directory."
  | init =>
    "Create the base codegen.graphqls schema file declaring the root Query and Mutation types."

def ofName? (name : String) : Option Command := all.find? (·.name == name)

end Command

/-- How the program ends. Help is about the program as a whole or about a command. -/
inductive Exit where
  | code (n : Nat)
  | version
  | help (c : Option Command)
  | usage (e : UsageError)
  deriving DecidableEq, Repr

def Exit.number : Exit → Nat
  | code n => n
  | version => 0
  | help _ => 0
  | usage _ => 2

def versionText : String := "dgs-codegen, version 0.2.3\n"

def helpOption : OptionSpec :=
  ⟨"help", ["--help"], none, true, none, "Show this message and exit."⟩

def versionOption : OptionSpec :=
  ⟨"version", ["--version"], none, true, none, "Show the version and exit."⟩

def levels : List Level := [.debug, .info, .warning, .error, .critical]

def levelWord (l : Level) : String := String.ofList (l.name.toList.map Char.toLower)

def levelOption : OptionSpec :=
  ⟨"log_level", ["-l", "--log-level"], some (.choice (levels.map levelWord)), false, some "INFO",
    "Log level [default: INFO]"⟩

def logFileOption : OptionSpec :=
  ⟨"log_file", ["--log-file"], some (.path "File" false true false), false, none, "Log file"⟩

def commonOptions : List OptionSpec := [levelOption, logFileOption, versionOption, helpOption]

def schemaDirOption : OptionSpec :=
  ⟨"schema_dir", ["--schemaDir"], some (.path "Path" false true true), false, none,
    "Directory containing GraphQL schema files (*.graphqls), searched recursively."⟩

def outputDirOption : OptionSpec :=
  ⟨"output_dir", ["--outputDir"], some (.path "Directory" false false true), false, none,
    "Directory where generated Java files are written."⟩

def packageNameOption : OptionSpec :=
  ⟨"package_name", ["--packageName"], some .anyText, false, none,
    "Base package; classes go to <package>.types and fetchers to <package>.fetchers."⟩

def excludeFilesOption : OptionSpec :=
  ⟨"exclude_files", ["--excludeFiles"], some .anyText, false, none,
    "Comma-separated schema file names to skip. [default: (codegen.graphqls)]"⟩

def configFileOption : OptionSpec :=
  ⟨"config_file", ["--config", "-c"], some (.path "File" true true false), false, none,
    "YAML file with schemaDir, outputDir, packageName and excludeFiles; options given here win."⟩

def generateOptions : List OptionSpec :=
  [schemaDirOption, outputDirOption, packageNameOption, excludeFilesOption, configFileOption,
    helpOption]

def defaultSchemaDir : String := "src/main/resources/schema"

def initDirOption : OptionSpec :=
  ⟨"schema_dir", ["--schemaDir"], some (.path "Directory" false false true), false,
    some defaultSchemaDir,
    "Directory to create the base schema file in. [default: " ++ defaultSchemaDir ++ "]"⟩

def initOptions : List OptionSpec := [initDirOption, helpOption]

def optionsOf : Option Command → List OptionSpec
  | none => commonOptions
  | some .generate => generateOptions
  | some .init => initOptions

def stemOf : Option Command → String
  | none => "DGS_CODEGEN"
  | some c => "DGS_CODEGEN_" ++ String.ofList (c.name.toList.map Char.toUpper)

def look (c : Option Command) (env : Environment) (p : Parsed) (o : OptionSpec) :
    Run (Option Exit) := do
  match o.check with
  | none =>
    match flagIsSet (stemOf c) env p o with
    | .ok true => return some (if o.name = versionOption.name then .version else .help c)
    | .ok false => return none
    | .error why => return some (.usage (.badValue o.spellings why))
  | some check =>
    match valueOf (stemOf c) env p o with
    | none => return none
    | some v =>
      match ← Run.orFault .file (← Run.inspect fun t => refusal? t check v) with
      | some why => return some (.usage (.badValue o.spellings why))
      | none => return none

def lookAll (c : Option Command) (env : Environment) (p : Parsed) :
    List OptionSpec → Run (Option Exit)
  | [] => return none
  | o :: rest => do
    match ← look c env p o with
    | some e => return e
    | none => lookAll c env p rest

/-- Reads and checks the options of a command, or those in front of one, and goes on with them. Only
a command takes its options in any place. -/
def withOptions (c : Option Command) (env : Environment) (arguments : List String)
    (go : Parsed → Run Exit) : Run Exit := do
  match parse (optionsOf c) c.isSome arguments with
  | .error e => return .usage e
  | .ok p =>
    match ← lookAll c env p (lookOrder (optionsOf c) p) with
    | some e => return e
    | none => go p

def Command.run (console : Console) (c : Command) (env : Environment) (p : Parsed) : Run Nat :=
  let value (o : OptionSpec) : Option String := valueOf (stemOf c) env p o
  match c with
  | .generate =>
    CommandLine.generate console {
      schemaDir := (value schemaDirOption).map .ofText
      outputDir := (value outputDirOption).map .ofText
      packageName := value packageNameOption
      excludeFiles := value excludeFilesOption
      configFile := (value configFileOption).map .ofText }
  | .init => CommandLine.init console (.ofText ((value initDirOption).getD defaultSchemaDir))

def Command.start (console : Console) (c : Command) (env : Environment)
    (arguments : List String) : Run Exit :=
  withOptions c env arguments fun p =>
    match p.rest with
    | first :: rest => return .usage (.extraArguments first rest)
    | [] => .code <$> c.run console env p

def levelOf (word : String) : Level :=
  (levels.find? fun l => levelWord l == String.ofList (word.toList.map Char.toLower)).getD .info

def withLog (time : String) (env : Environment) (p : Parsed) (x : Run Exit) : Run Exit := do
  let level := levelOf ((valueOf (stemOf none) env p levelOption).getD "INFO")
  match valueOf (stemOf none) env p logFileOption with
  | some file =>
    let home ← Run.inspect (·.home)
    Run.logged ((Path.ofText file).absolute home) level time (x.atLevel level)
  | none => x.atLevel level

/-- Whether a name may have been meant for an option: it starts with neither a letter nor a number.
-/
def looksLikeOption (name : String) : Bool := name.toList.head?.any (!Text.isAlphanumeric ·)

/-- What is done about a name that is no command: if it looks like an option, the options are read
and checked once more from there on. -/
def unknownCommand (env : Environment) (name : String) (arguments : List String) : Run Exit :=
  if looksLikeOption name then
    withOptions none env arguments fun _ => return .usage (.noSuchCommand name)
  else return .usage (.noSuchCommand name)

def onArguments (console : Console) (time : String) (env : Environment)
    (arguments : List String) : Run Exit :=
  if arguments.isEmpty then return .code 2
  else
    withOptions none env arguments fun p =>
      match p.rest with
      | [] => return .usage .missingCommand
      | name :: rest =>
        match Command.ofName? name with
        | none => unknownCommand env name p.rest
        | some c => withLog time env p (c.start console env rest)

/-- The program on its arguments; a request for completion comes before them. `time` is what log
lines start with. -/
def program (console : Console) (time : String) (env : Environment) (arguments : List String) :
    Run Exit :=
  match (env.lookup Completion.requestVariable).filter (· != "") with
  | some request => .code <$> Run.orFault id (Completion.answer env request)
  | none => onArguments console time env arguments

end SchemaToJava.CommandLine
