import SchemaToJava.Text.Integer

/-!
What can be wrong with one setting of a configuration.
-/

namespace SchemaToJava.Config

inductive Reason where
  | missing
  | blankPath
  | notPath
  | notText
  | undecodableText
  | notPackageName (text : String)
  | halvesInPackageName (h : Text.Wide.Halves)
  | notNameSet
  | unwritableInteger
  deriving DecidableEq, Repr

structure Problem where
  key : String
  reason : Reason
  deriving DecidableEq, Repr

def notPackageNameLead : String := "Not a valid Java package name: "

/-- The halves in what would be said of a package name; they keep it from being said. The quote in
front of the name counts as well. -/
def Reason.halves? : Reason → Option Text.Wide.Halves
  | .halvesInPackageName h => some (h.after (notPackageNameLead.length + 1))
  | _ => none

def Reason.text : Reason → String
  | .missing => "Missing required parameter"
  | .blankPath => "Value error, Missing required parameter"
  | .notPath => "Input is not a valid path for <class 'pathlib.Path'>"
  | .notText => "Input should be a valid string"
  | .undecodableText =>
    "Input should be a valid string, unable to parse raw data as a unicode string"
  | .notPackageName s => s!"Value error, {notPackageNameLead}'{s}'"
  | .halvesInPackageName h => h.message
  | .notNameSet => "Input should be a valid frozenset"
  | .unwritableInteger => "Value error, " ++ Text.unwritable

def Problem.message (p : Problem) : String :=
  match p.reason with
  | .missing => Reason.missing.text ++ ": " ++ p.key
  | r => p.key ++ ": " ++ r.text

end SchemaToJava.Config
