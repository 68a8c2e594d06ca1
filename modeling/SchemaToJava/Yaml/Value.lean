import SchemaToJava.Decimal.Shortest
import SchemaToJava.Text.Quoted
import SchemaToJava.Yaml.Timestamp

/-!
The values a configuration file can hold. A value also has a text, which is what a list of names
takes it for; inside lists and mappings texts are quoted. A collection that stands inside itself is
not written out a second time.
-/

namespace SchemaToJava.Yaml

open Decimal
open Text (Wide)

inductive Shape where
  | list
  | mapping
  | pair
  deriving DecidableEq, Repr

/-- A value. What is no number is `nan` if it is named so, and a `float` if it came out of reading
one. A collection inside itself is only named by its shape. -/
inductive Value where
  | null
  | boolean (b : Bool)
  | int (n : Int)
  | float (f : Binary64)
  | nan
  | text (t : Wide)
  | date (d : Date)
  | timestamp (t : Timestamp)
  | binary (bytes : List UInt8)
  | list (items : List Value)
  | mapping (entries : List (Value × Value))
  | set (items : List Value)
  | pair (first second : Value)
  | again (shape : Shape)
  deriving Repr, Inhabited

def quotedBytes (bytes : List UInt8) : String :=
  let cs := bytes.map fun b => Char.ofNat b.toNat
  let quote := Text.quoteFor cs
  let byte (c : Char) : List Char :=
    if c.toNat < 0x80 then Text.quotedChar quote c else '\\' :: 'x' :: Text.hexDigits 2 c.toNat
  String.ofList ('b' :: quote :: cs.flatMap byte ++ [quote])

def Shape.enclose (s : Shape) (items : List String) : String :=
  let inside := ", ".intercalate items
  match s with
  | list => "[" ++ inside ++ "]"
  | mapping => "\x7b" ++ inside ++ "\x7d"
  | pair => "(" ++ inside ++ ")"

namespace Value

mutual

def inner : Value → String
  | null => "None"
  | boolean b => if b then "True" else "False"
  | int n => toString n
  | float f => f.text
  | nan => Binary64.nan.text
  | text t => Wide.quoted t
  | date d => s!"datetime.date({d.year}, {d.month}, {d.day})"
  | timestamp t => t.inner
  | binary bs => quotedBytes bs
  | list items => Shape.list.enclose (innerAll items)
  | mapping entries => Shape.mapping.enclose (innerEntries entries)
  | set items => if items.isEmpty then "set()" else Shape.mapping.enclose (innerAll items)
  | pair a b => Shape.pair.enclose [a.inner, b.inner]
  | again s => s.enclose ["..."]

def innerAll : List Value → List String
  | [] => []
  | v :: rest => v.inner :: innerAll rest

def innerEntries : List (Value × Value) → List String
  | [] => []
  | (k, v) :: rest => (k.inner ++ ": " ++ v.inner) :: innerEntries rest

end

def shown : Value → Wide
  | text t => t
  | date d => .ofString d.text
  | timestamp t => .ofString t.text
  | v => .ofString v.inner

def isWritable (n : Int) : Bool := n.natAbs < Nat.pow 10 Text.maxDecimalDigits

mutual

def isShowable : Value → Bool
  | int n => isWritable n
  | list items => areShowable items
  | mapping entries => entriesShowable entries
  | set items => areShowable items
  | pair a b => a.isShowable && b.isShowable
  | _ => true

def areShowable : List Value → Bool
  | [] => true
  | v :: rest => v.isShowable && areShowable rest

def entriesShowable : List (Value × Value) → Bool
  | [] => true
  | (k, v) :: rest => k.isShowable && v.isShowable && entriesShowable rest

end

def asInt? : Value → Option Int
  | boolean b => some (if b then 1 else 0)
  | int n => some n
  | _ => none

/-- Whether two values are the same key. Numbers are compared by value, whatever their kind; only
what is named as no number is the same as itself. -/
def sameKey (a b : Value) : Bool :=
  match a, b with
  | null, null => true
  | nan, nan => true
  | float f, float g => (f == g && f != .nan) || (f.isInt 0 && g.isInt 0)
  | float f, b => (b.asInt?.map f.isInt).getD false
  | a, float g => (a.asInt?.map g.isInt).getD false
  | text s, text t => s == t
  | date d, date e => d == e
  | timestamp t, timestamp u => t.isSameAs u
  | binary x, binary y => x == y
  | a, b =>
    match a.asInt?, b.asInt? with
    | some m, some n => m == n
    | _, _ => false

example : sameKey (.int 1) (.boolean true) = true := rfl

end Value

end SchemaToJava.Yaml
