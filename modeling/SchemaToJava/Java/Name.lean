/-!
Java identifiers and package names.
-/

namespace SchemaToJava.Java

def reservedWords : List String := [
  "_", "abstract", "assert", "boolean", "break", "byte", "case", "catch", "char", "class", "const",
  "continue", "default", "do", "double", "else", "enum", "extends", "false", "final", "finally",
  "float", "for", "goto", "if", "implements", "import", "instanceof", "int", "interface", "long",
  "native", "new", "null", "package", "private", "protected", "public", "return", "short",
  "static", "strictfp", "super", "switch", "synchronized", "this", "throw", "throws", "transient",
  "true", "try", "void", "volatile", "while"]

def isIdentifierStart (c : Char) : Bool :=
  ('A' ≤ c && c ≤ 'Z') || ('a' ≤ c && c ≤ 'z') || c == '_' || c == '$'

def isIdentifierPart (c : Char) : Bool := isIdentifierStart c || ('0' ≤ c && c ≤ '9')

def withoutLastLineEnd (cs : List Char) : List Char :=
  if cs.getLast? = some '\n' then cs.dropLast else cs

/-- The shape of an identifier. One line feed at the end is overlooked. -/
def hasIdentifierShape (cs : List Char) : Bool :=
  match withoutLastLineEnd cs with
  | [] => false
  | c :: rest => isIdentifierStart c && rest.all isIdentifierPart

/-- Whether a name can be used as an identifier. A reserved word is compared as a whole, so with a
line feed after it it is none. -/
def isIdentifier (name : String) : Bool :=
  hasIdentifierShape name.toList && !reservedWords.contains name

def segments (package : String) : List String :=
  (package.toList.splitOn '.').map String.ofList

def isPackageName (package : String) : Bool := (segments package).all isIdentifier

def subpackage (base inner : String) : String := base ++ "." ++ inner

example : isIdentifier "userId" = true := by decide
example : isIdentifier "class" = false := by decide
example : isPackageName "com.example" = true := by decide
example : isPackageName "com..example" = false := by decide

end SchemaToJava.Java
