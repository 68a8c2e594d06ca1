import SchemaToJava.Proofs.Emission.Fetcher

/-!
Which members of a fetcher interface are told apart by their names. A query and a mutation may share
a name; beyond that only the arguments of a field could clash, with each other or with the parameter
that every method has.
-/

namespace SchemaToJava.Emission

open GraphQL Java

def signature (m : MethodDecl) : String × List TypeRef := (m.name, m.parameters.map (·.type))

def parameterNames (m : MethodDecl) : List String := m.parameters.map (·.name)

section Serves

variable {base : String}

theorem names_of_bindsArgument {as : List InputValue} {ps : List Parameter}
    (h : List.Forall₂ (BindsArgument base) as ps) : ps.map (·.name) = as.map (·.name) := by
  induction h with
  | nil => rfl
  | cons hp _ ih => rw [List.map_cons, List.map_cons, hp.name, ih]

theorem Serves.parameterNames_eq {o : Operation} {m : MethodDecl} (h : Serves base o m) :
    parameterNames m = o.field.arguments.map (·.name) ++ ["dfe"] := by
  obtain ⟨ps, hps, heq⟩ := h.parameters
  rw [parameterNames, heq, List.map_append, names_of_bindsArgument hps]
  rfl

theorem Serves.nodup_parameterNames {o : Operation} {m : MethodDecl} (h : Serves base o m)
    (hnodup : (o.field.arguments.map (·.name)).Nodup)
    (hdfe : "dfe" ∉ o.field.arguments.map (·.name)) : (parameterNames m).Nodup := by
  rw [h.parameterNames_eq]
  refine List.nodup_append.mpr ⟨hnodup, List.nodup_singleton _, fun a ha b hb hab => hdfe ?_⟩
  rwa [← List.mem_singleton.mp hb, ← hab]

theorem marker_injective {r s : Root} (h : [r.marker] = [s.marker]) : r = s := by
  revert h
  cases r <;> cases s <;> decide

/-- Two operations whose methods have one name and one marker are the same. -/
theorem Serves.key_eq {o p : Operation} {m n : MethodDecl} (ho : Serves base o m)
    (hp : Serves base p n) (hname : m.name = n.name) (hmarker : m.annotations = n.annotations) :
    o.key = p.key := by
  rw [ho.annotations, hp.annotations] at hmarker
  exact Prod.ext (marker_injective hmarker) (ho.name.symm.trans (hname.trans hp.name))

theorem pairwise_of_serves {os : List Operation} {ms : List MethodDecl}
    (h : List.Forall₂ (Serves base) os ms) (hnodup : (os.map Operation.key).Nodup) :
    ms.Pairwise fun m n => m.name = n.name → m.annotations ≠ n.annotations := by
  induction h with
  | nil => exact .nil
  | @cons o m os ms ho hrest ih =>
    obtain ⟨hkey, hnodup⟩ := List.nodup_cons.mp hnodup
    refine .cons (fun n hn hname hmarker => hkey ?_) (ih hnodup)
    obtain ⟨p, hp, hserves⟩ := Outcome.exists_of_forall₂ hrest hn
    exact List.mem_map.mpr ⟨p, hp, (ho.key_eq hserves hname hmarker).symm⟩

end Serves

/-- Two methods of an interface share a name only if one is a query and the other a mutation, and
the parameters of a method have different names if the arguments of its field do and none of these
is called like the last parameter. -/
theorem members_of_fetcher {base fileName : String} {doc : Document} {i : InterfaceDecl}
    (h : (fetcher base doc fileName).outcome = .ok i) :
    (∀ m ∈ i.methods, ∃ r : Root, m.annotations = [r.marker]) ∧
    (i.methods.Pairwise fun m n => m.name = n.name → m.annotations ≠ n.annotations) ∧
    List.Forall₂ (fun o m => m.name = o.field.name ∧
        ((o.field.arguments.map (·.name)).Nodup → "dfe" ∉ o.field.arguments.map (·.name) →
          (parameterNames m).Nodup))
      (operations doc) i.methods := by
  obtain ⟨-, ms, hms, rfl⟩ := fetcher_eq_ok_iff.mp h
  obtain ⟨hnodup, -, hall⟩ := methods_eq_ok_iff.mp hms
  have hserves : List.Forall₂ (Serves base) (operations doc) ms :=
    hall.imp fun _ _ => serves_of_method
  refine ⟨fun m hm => ?_, pairwise_of_serves hserves hnodup, ?_⟩
  · obtain ⟨o, -, ho⟩ := Outcome.exists_of_forall₂ hserves hm
    exact ⟨o.root, ho.annotations⟩
  · exact hserves.imp fun _ _ ho => ⟨ho.name, ho.nodup_parameterNames⟩

def clashingText : List Char :=
  "type Query \x7b a(dfe: ID): Int \x7d type Mutation \x7b a(dfe: ID): Int \x7d".toList

def clashingDocument : Document :=
  ⟨[.typeSystem (.object ⟨none, "Query", [], [],
      [⟨none, "a", [⟨none, "dfe", .named "ID", none, []⟩], .named "Int", []⟩]⟩),
    .typeSystem (.object ⟨none, "Mutation", [], [],
      [⟨none, "a", [⟨none, "dfe", .named "ID", none, []⟩], .named "Int", []⟩]⟩)]⟩

def clashingInterface : InterfaceDecl :=
  ⟨"p.fetchers", "AFetcher", [component],
    [⟨"a", .primitive "int", [Root.query.marker],
        [⟨"dfe", javaString, [inputArgument]⟩, environmentParameter]⟩,
      ⟨"a", .primitive "int", [Root.mutation.marker],
        [⟨"dfe", javaString, [inputArgument]⟩, environmentParameter]⟩], some "a.graphqls"⟩

theorem clashing_members :
    Document.parse clashingText = .ok clashingDocument ∧
      (fetcher "p" clashingDocument "a.graphqls").outcome = .ok clashingInterface ∧
      ¬ (clashingInterface.methods.map signature).Nodup ∧
      ∃ m ∈ clashingInterface.methods, ¬ (parameterNames m).Nodup := by
  refine ⟨by cbv, by cbv, by decide, ?_⟩
  exact ⟨_, List.mem_cons_self, by decide⟩

def mixedRootsInterface : InterfaceDecl :=
  ⟨"p.fetchers", "UserFetcher", [component],
    [⟨"user", .inPackage "p.types" "User", [Root.mutation.marker],
        [⟨"id", javaString, [⟨.inPackage validationPackage "Max", [⟨"value", "5"⟩]⟩, inputArgument]⟩,
          environmentParameter]⟩,
      ⟨"user", .inPackage "p.types" "User", [Root.query.marker], [environmentParameter]⟩],
    some "user.graphqls"⟩

theorem members_mixedRootsInterface :
    (fetcher "p" mixedRootsDocument "user.graphqls").outcome = .ok mixedRootsInterface ∧
      (∀ m ∈ mixedRootsInterface.methods, ∃ r : Root, m.annotations = [r.marker]) ∧
      (mixedRootsInterface.methods.Pairwise fun m n =>
        m.name = n.name → m.annotations ≠ n.annotations) ∧
      List.Forall₂ (fun o m => m.name = o.field.name ∧
          ((o.field.arguments.map (·.name)).Nodup → "dfe" ∉ o.field.arguments.map (·.name) →
            (parameterNames m).Nodup))
        (operations mixedRootsDocument) mixedRootsInterface.methods := by
  have hfetcher : (fetcher "p" mixedRootsDocument "user.graphqls").outcome =
      .ok mixedRootsInterface := by
    cbv
  exact ⟨hfetcher, members_of_fetcher hfetcher⟩

end SchemaToJava.Emission
