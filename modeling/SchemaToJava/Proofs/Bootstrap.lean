import SchemaToJava.Bootstrap
import SchemaToJava.Proofs.FileTree.Refusal
import SchemaToJava.Proofs.Run

/-!
Creating the base schema file. That it cannot be looked up or that its path has a null character
goes unreported; whatever keeps it from being written is reported.
-/

namespace SchemaToJava.Bootstrap

variable {t : FileTree} {directory : Path}

theorem file_eq (directory : Path) :
    file directory = ⟨directory.anchor, directory.parts ++ [Config.bootstrapFile]⟩ := by
  have hname : Path.ofText Config.bootstrapFile = ⟨.working, [Config.bootstrapFile]⟩ := by decide
  rw [file, Path.child, hname]
  rfl

def refusal (directory : Path) (e : FileError) : Fault :=
  Run.fileFault (.unwritable (file directory)) e

/-- How the creation of the base schema file ends, what it tells and what it leaves. -/
inductive Creates (t : FileTree) (directory : Path) :
    Except Fault Bool → List Event → FileTree → Prop where
  | unanswered {e : FileError} (hfind : t.find? (file directory) = .error e) :
    Creates t directory (.error (.file e)) [] t
  | there {e : Entry} (hfind : t.find? (file directory) = .ok (some e)) :
    Creates t directory (.ok false) [.bootstrapThere (file directory)] t
  | noDirectory {e : FileError} {v : FileTree} (hfind : t.find? (file directory) = .ok none)
    (hmake : t.makeDirectories directory = (v, .error e)) :
    Creates t directory (.error (refusal directory e)) [] v
  | refused {e : FileError} {v : FileTree} (hfind : t.find? (file directory) = .ok none)
    (hmake : t.makeDirectories directory = (v, .ok ()))
    (hwrite : v.write (file directory) (Text.Utf8.encode content) = .error e) :
    Creates t directory (.error (refusal directory e)) [] v
  | created {v u : FileTree} (hfind : t.find? (file directory) = .ok none)
    (hmake : t.makeDirectories directory = (v, .ok ()))
    (hwrite : v.write (file directory) (Text.Utf8.encode content) = .ok u) :
    Creates t directory (.ok true) [.bootstrapCreated (file directory)] u

/-- What ends the creation of the base schema file without a report. -/
inductive Escape (t : FileTree) (directory : Path) : Fault → Prop where
  | lookup {e : FileError} (h : t.find? (file directory) = .error e) :
    Escape t directory (.file e)
  | path (h : FileTree.hasNull directory = true) : Escape t directory (.file .nullInPath)

end SchemaToJava.Bootstrap
