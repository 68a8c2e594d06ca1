import SchemaToJava.Emission.Fetcher
import SchemaToJava.GraphQL.Grammar
import SchemaToJava.Run

/-!
Schema files: which ones there are below a directory, and what they hold. The answers do not depend
on the order in which a directory lists its entries.
-/

namespace SchemaToJava.SchemaFile

open GraphQL

def wayText (l : Location) : String := "/".intercalate l

def inOrder (ls : List Location) : List Location :=
  ls.mergeSort fun a b => decide (wayText a ≤ wayText b)

def hasEnding (ending : String) (l : Location) : Bool :=
  ending.toList.isSuffixOf (l.getLast?.getD "").toList

def below (directory : Path) (way : Location) : Path := ⟨directory.anchor, directory.parts ++ way⟩

def discover (directory : Path) (exclude : List String) : Run (List Path) := do
  match ← Run.orFault .file (← Run.inspect fun t => t.find? directory) with
  | none => Run.fail (.schemaDirectoryMissing directory)
  | some (.file _) => Run.fail (.schemaPathNotDirectory directory)
  | some .directory =>
    let ways ← Run.inspect fun t =>
      inOrder ((t.filesBelow directory).filter (hasEnding Emission.schemaFileEnding))
    let isExcluded (way : Location) : Bool := exclude.contains (way.getLast?.getD "")
    for way in ways.filter isExcluded do
      Run.note (.excluding (below directory way))
    return (ways.filter (!isExcluded ·)).map (below directory)

def decode (p : Path) (bytes : List UInt8) : Except Fault (List Char) :=
  match Text.Utf8.decode bytes with
  | .ok cs => .ok (Text.unifyLineEnds cs)
  | .error e => .error (.unreadableSchema p (.encoding e))

/-- Checks that a text is a schema document; `loadedFrom` is what the text is called. -/
def check (p : Path) (loadedFrom : String) (text : List Char) : Except Fault (List Char) :=
  match Document.parse text with
  | .ok _ => .ok text
  | .error e => .error (.invalidSchema p loadedFrom text e)

def checkedText (p : Path) (loadedFrom : String) (bytes : List UInt8) :
    Except Fault (List Char) := do
  check p loadedFrom (← decode p bytes)

def loadedEndings : List String := [".graphql", ".graphqls", ".gql"]

/-- Whether a file of a directory is loaded. The case of the ending does not matter. -/
def isLoaded (way : Location) : Bool :=
  let name := (way.getLast?.getD "").toList.map Char.toLower
  loadedEndings.any fun ending => ending.toList.isSuffixOf name

def nameBelow (directory : Path) (way : Location) : String :=
  let text := directory.text
  (if text.toList.getLast? = some '/' then text else text ++ "/") ++ wayText way

def textsBelow (t : FileTree) (p : Path) : Except Fault (List (List Char)) :=
  (inOrder ((t.filesBelow p).filter isLoaded)).mapM fun way => do
    match t.read (below p way) with
    | .ok bytes => checkedText p (nameBelow p way) bytes
    | .error e => .error (.unreadableSchema p (.file e))

/-- The text behind a path: that of a file, or those of the files below a directory, joined. -/
def textOf (t : FileTree) (p : Path) : Except Fault (List Char) :=
  if t.isDirectory p then do
    return ['\n'].intercalate (← textsBelow t p)
  else
    let place := p.resolved t.home
    match t.read place with
    | .ok bytes => checkedText p place.text bytes
    | .error e => .error (Run.fileFault (fun e => .unreadableSchema p (.file e)) e)

def load (p : Path) : Run Document := do
  let text ← Run.orFault id (← Run.inspect fun t => textOf t p)
  let doc ← Run.orFault .document (Document.parse text)
  Run.note (.parsed doc.definitions.length p)
  return doc

end SchemaToJava.SchemaFile
