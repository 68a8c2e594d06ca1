import SchemaToJava.Event
import SchemaToJava.FileTree

/-!
What a run works on: files, and perhaps a log that is kept in one of them. The log has a position of
its own, so other uses of its file do not move it.
-/

namespace SchemaToJava

/-- A log: the place of its file, the level of the events it takes, what its lines start with, and
where in the file its next line goes. -/
structure Log where
  place : Location
  threshold : Level
  time : String
  position : Nat
  deriving DecidableEq, Repr

namespace Log

def line (log : Log) (e : Event) : String := s!"{log.time}:{e.level.name}:{e.text}\n"

/-- Puts bytes at a position, in place of those there. Zeros fill a gap in front of them. -/
def overlay (held : List UInt8) (position : Nat) (bytes : List UInt8) : List UInt8 :=
  held.take position ++ List.replicate (position - held.length) 0 ++ bytes ++
    held.drop (position + bytes.length)

end Log

structure Workspace where
  files : FileTree
  log : Option Log
  deriving Repr

namespace Workspace

def ofFiles (t : FileTree) : Workspace := ⟨t, none⟩

def record (w : Workspace) (e : Event) : Workspace :=
  match w.log with
  | none => w
  | some log =>
    if e.isVisible log.threshold then
      let bytes := Text.Utf8.encode (log.line e)
      let held := match w.files.get? log.place with
        | some (.file held) => held
        | _ => []
      { files := w.files.insert log.place (.file (Log.overlay held log.position bytes))
        log := some { log with position := log.position + bytes.length } }
    else w

@[simp] theorem record_ofFiles (t : FileTree) (e : Event) :
    (ofFiles t).record e = ofFiles t := rfl

end Workspace

end SchemaToJava
