import SchemaToJava.Path
import SchemaToJava.Text.Quoted

/-!
Why a file or directory could not be used. The system gives such a refusal a number; a path with a
null character never reaches the system.
-/

namespace SchemaToJava

inductive FileError.Reason where
  | notFound
  | alreadyThere
  | notDirectory
  | isDirectory
  | nameTooLong
  deriving DecidableEq, Repr

inductive FileError where
  | refused (reason : FileError.Reason) (path : Path)
  | nullInPath
  deriving DecidableEq, Repr

namespace FileError

def Reason.number : Reason → Nat
  | .notFound => 2
  | .alreadyThere => 17
  | .notDirectory => 20
  | .isDirectory => 21
  | .nameTooLong => 36

def Reason.text : Reason → String
  | .notFound => "No such file or directory"
  | .alreadyThere => "File exists"
  | .notDirectory => "Not a directory"
  | .isDirectory => "Is a directory"
  | .nameTooLong => "File name too long"

def message : FileError → String
  | .refused r p => s!"[Errno {r.number}] {r.text}: {Text.quoted p.text}"
  | .nullInPath => "embedded null byte"

end FileError

end SchemaToJava
