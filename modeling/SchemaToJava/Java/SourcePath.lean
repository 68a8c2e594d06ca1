import SchemaToJava.Java.Declaration
import SchemaToJava.Java.Name
import SchemaToJava.Path

/-!
Where source files go: the segments of a package are directories, and a file is named for the type
it declares.
-/

namespace SchemaToJava.Java

def packagePath (package : String) : Path :=
  (segments package).foldl (fun p s => p.join (.ofText s)) .here

def fileName (name : String) : String := name ++ ".java"

def Artifact.path (a : Artifact) (out : Path) : Path :=
  (out.join (packagePath a.package)).join (.ofText (fileName a.name))

example : (packagePath "com.example").text = "com/example" := by decide

end SchemaToJava.Java
