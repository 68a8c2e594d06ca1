import SchemaToJava.Fault

/-!
What a run reports while it works. Each event has a level, and a reader who asks for a level sees
the events at that level and above.
-/

namespace SchemaToJava

inductive Level where
  | debug
  | info
  | warning
  | error
  | critical
  deriving DecidableEq, Repr

inductive Event where
  | loadedConfig (file : Path)
  | excludingNames (names : List Text.Wide)
  | excluding (file : Path)
  | found (count : Nat) (directory : Path)
  | processing (file : Path)
  | parsed (count : Nat) (file : Path)
  | skippingExtension (type : String)
  | ignoringDirective (name : String)
  | builtClasses (count : Nat)
  | builtFetcher (name : String) (operations : Nat)
  | wrote (file : Path)
  | overwrites (file source previous : Path)
  | generated (count : Nat) (directory : Path)
  | bootstrapThere (file : Path)
  | bootstrapCreated (file : Path)
  | failed (fault : Fault)
  deriving DecidableEq, Repr

namespace Level

def rank : Level → Nat
  | debug => 10
  | info => 20
  | warning => 30
  | error => 40
  | critical => 50

def name : Level → String
  | debug => "DEBUG"
  | info => "INFO"
  | warning => "WARNING"
  | error => "ERROR"
  | critical => "CRITICAL"

end Level

namespace Event

def level : Event → Level
  | found .. | processing .. | generated .. | bootstrapThere .. | bootstrapCreated .. => .info
  | overwrites .. => .warning
  | failed .. => .error
  | _ => .debug

def text : Event → String
  | loadedConfig f => s!"Loaded configuration from {f.text}"
  | excludingNames ns => s!"Excluding files: {Text.Wide.quotedList ns}"
  | excluding f => s!"Excluding {f.text}"
  | found n d => s!"Found {n} schema files in {d.text}"
  | processing f => s!"Processing {f.text}"
  | parsed n f => s!"Parsed {n} definitions from {f.text}"
  | skippingExtension t => s!"Skipping extension of '{t}': no matching definition in this file"
  | ignoringDirective n => s!"Ignoring directive @{n}"
  | builtClasses n => s!"Built {n} type classes"
  | builtFetcher name n => s!"Built {name} with {n} operations"
  | wrote f => s!"Wrote {f.text}"
  | overwrites f source previous =>
    s!"{f.text} from {source.text} overwrites the one generated from {previous.text}"
  | generated n d => s!"Generated {n} Java files in {d.text}"
  | bootstrapThere f => s!"Base GraphQL schema file already exists at: {f.text}"
  | bootstrapCreated f => s!"Created base GraphQL schema file at: {f.text}"
  | failed f => f.message

def isVisible (threshold : Level) (e : Event) : Bool := threshold.rank ≤ e.level.rank

end Event

end SchemaToJava
