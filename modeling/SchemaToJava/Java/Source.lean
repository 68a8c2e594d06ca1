import SchemaToJava.Java.Declaration
import SchemaToJava.Java.ImportScope

/-!
The text of a source file. All types are claimed first, in the order in which the text names them;
then everything is written with the resulting scope.
-/

namespace SchemaToJava.Java

def groupedMembers (ms : List Member) : List (String × List String) :=
  (ms.map (·.name)).eraseDups.map fun n => (n, (ms.filter (·.name == n)).map (·.value))

def memberValue : List String → String
  | [v] => v
  | vs => "\x7b" ++ ", ".intercalate vs ++ "\x7d"

/-- What stands between the parentheses of an annotation. A member `value` that is alone is written
without its name. -/
def memberList (ms : List Member) : String :=
  match groupedMembers ms with
  | [("value", vs)] => memberValue vs
  | groups => ", ".intercalate (groups.map fun (n, vs) => n ++ " = " ++ memberValue vs)

def AnnotationUse.text (s : ImportScope) (a : AnnotationUse) : String :=
  let name := "@" ++ s.spelling a.type
  if a.members.isEmpty then name else name ++ "(" ++ memberList a.members ++ ")"

def annotationLines (s : ImportScope) (indent : String) (as : List AnnotationUse) : String :=
  String.join (as.map fun a => indent ++ a.text s ++ "\n")

def FieldDecl.text (s : ImportScope) (f : FieldDecl) : String :=
  annotationLines s "  " f.annotations ++
    "  private " ++ s.spelling f.type ++ " " ++ f.name ++ ";\n"

def Parameter.text (s : ImportScope) (p : Parameter) : String :=
  " ".intercalate (p.annotations.map (·.text s) ++ [s.spelling p.type, p.name])

def MethodDecl.text (s : ImportScope) (m : MethodDecl) : String :=
  annotationLines s "  " m.annotations ++ "  " ++ s.spelling m.returnType ++ " " ++ m.name ++ "(" ++
    ", ".intercalate (m.parameters.map (·.text s)) ++ ");\n"

def importLines (imports : List String) : String :=
  if imports.isEmpty then ""
  else String.join (imports.map fun i => "import " ++ i ++ ";\n") ++ "\n"

namespace Artifact

def scope (a : Artifact) : ImportScope :=
  (ImportScope.opened a.package a.typeRef).claimAll a.references

def keyword : Artifact → String
  | ofClass _ => "class"
  | ofInterface _ => "interface"

def annotations : Artifact → List AnnotationUse
  | ofClass c => c.annotations
  | ofInterface i => i.annotations

def bodyTexts (s : ImportScope) : Artifact → List String
  | ofClass c => c.fields.map (·.text s)
  | ofInterface i => i.methods.map (·.text s)

def render (a : Artifact) : String :=
  let s := a.scope
  "package " ++ a.package ++ ";\n\n" ++
    importLines s.imports ++
    annotationLines s "" a.annotations ++
    "public " ++ a.keyword ++ " " ++ a.name ++ " \x7b\n" ++
    "\n".intercalate (a.bodyTexts s) ++
    "\x7d\n"

end Artifact

end SchemaToJava.Java
