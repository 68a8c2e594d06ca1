import SchemaToJava.Proofs.CommandLine.Messages
import SchemaToJava.Proofs.Config.File
import SchemaToJava.Proofs.Generation.Escape

/-!
How the commands come to an end. Each answers with an exit code and tells of at most one error. Only
the faults that escape from reading the settings, from the generation, or from creating the base
schema file leave a command without an exit code, and texts that the console refuses to print.
-/

namespace SchemaToJava.CommandLine

section ExitCodes

variable {x : Run Unit} {f : Fault} {t u : FileTree} {es : List Event}

theorem exitCode_ends_ok (h : x.Ends t (.ok ()) es u) : (exitCode x).Ends t (.ok 0) es u := by
  rw [← List.append_nil es]
  unfold exitCode
  refine Run.Ends.recover_ok ?_ _
  exact h.bind (.pure 0 u)

theorem exitCode_ends_reported (hf : f.isReported = true) (h : x.Ends t (.error f) es u) :
    (exitCode x).Ends t (.ok 1) (es ++ [.failed f]) u := by
  unfold exitCode
  refine (h.bind_error _).recover ?_
  rw [if_pos hf]
  exact (Run.Ends.note rfl u).bind (.pure 1 u)

end ExitCodes

section Generating

variable {console : Console} {t : FileTree}

theorem runGeneration_ends_ok {c : Config} {u : FileTree} {es : List Event}
    {result : Generation.Result} (h : (Generation.run c).Ends t (.ok result) es u)
    (hopening : ∀ text ∈ opening c, console.objection? text = none)
    (hsummary : ∀ text ∈ summary result, console.objection? text = none) :
    (runGeneration console c).Ends t (.ok ()) es u := by
  have hrule : (Run.put (.rule "[bold blue]DGS code generation")).Ends t (.ok ()) [] t :=
    .put (fun _ => Output.noConfusion) t
  have hlead := Run.Ends.printAll console (opening c) t
  have hend := Run.Ends.printAll console (summary result) u
  rw [Console.verdict_eq_ok hopening] at hlead
  rw [Console.verdict_eq_ok hsummary] at hend
  rw [← List.append_nil es]
  exact hrule.bind (hlead.bind (h.bind hend))

def generation (console : Console) (s : Config.Settings) : Run Unit := do
  runGeneration console (← Run.traced (Config.build s))

theorem generation_ends_problems {s : Config.Settings} {problems : List Config.Problem}
    (h : Config.ofSettings s = .error problems) (t : FileTree) :
    (generation console s).Ends t (.error (Config.faultOf problems)) [] t := by
  have hbuild : Config.build s = Traced.fail (Config.faultOf problems) := by
    rw [Config.build, h]
  have hends := Run.Ends.traced (x := (Traced.fail (Config.faultOf problems) : Traced Config))
    (by simp [Traced.fail]) t
  unfold generation
  rw [hbuild]
  exact hends.bind_error _

theorem build_ends_ok {s : Config.Settings} {c : Config} (h : Config.ofSettings s = .ok c)
    (t : FileTree) : (Run.traced (Config.build s)).Ends t (.ok c) [] t := by
  have hbuild : Config.build s = do
      Traced.note (.excludingNames c.excludeFiles)
      return c := by
    rw [Config.build, h]
  rw [hbuild]
  exact Run.Ends.traced
    (by simp [Traced.note, bind, pure, Event.isVisible, Event.level, Level.rank]) t

end Generating

def argumentSettings (arguments : List String) : Config.Settings :=
  .ofTexts (Config.ofArguments arguments)

end SchemaToJava.CommandLine
