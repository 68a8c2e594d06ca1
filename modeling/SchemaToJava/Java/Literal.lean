import SchemaToJava.Text.Quoted

/-!
Java literals for texts, integers and booleans.
-/

namespace SchemaToJava.Java

inductive Literal where
  | string (s : String)
  | int (n : Int)
  | boolean (b : Bool)
  deriving DecidableEq, Repr

def escapeLetter? (c : Char) : Option Char :=
  if c = '\x08' then some 'b'
  else if c = '\t' then some 't'
  else if c = '\n' then some 'n'
  else if c = '\x0c' then some 'f'
  else if c = '\r' then some 'r'
  else if c = '\x22' then some '\x22'
  else if c = '\\' then some '\\'
  else none

def isControl (c : Char) : Bool := c.toNat ≤ 0x1F || (0x7F ≤ c.toNat && c.toNat ≤ 0x9F)

def stringChar (c : Char) : List Char :=
  match escapeLetter? c with
  | some e => ['\\', e]
  | none => if isControl c then '\\' :: 'u' :: Text.hexDigits 4 c.toNat else [c]

def stringLiteral (s : String) : String :=
  String.ofList ('\x22' :: s.toList.flatMap stringChar ++ ['\x22'])

def Literal.text : Literal → String
  | .string s => stringLiteral s
  | .int n => toString n
  | .boolean b => if b then "true" else "false"

@[simp] theorem toList_stringLiteral (s : String) :
    (stringLiteral s).toList = '\x22' :: s.toList.flatMap stringChar ++ ['\x22'] := by
  simp [stringLiteral]

example : stringLiteral "a\"\x01" = "\"a\\\"\\u0001\"" := by decide

end SchemaToJava.Java
