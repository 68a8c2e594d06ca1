import SchemaToJava.Proofs.Emission.DataClass
import SchemaToJava.Proofs.Emission.Fetcher

/-!
What stands in the files of a document: a class stands for one of its types, and the interface for
all of its operations.
-/

namespace SchemaToJava.Emission

open GraphQL Java

variable {base fileName : String} {source : Option String} {doc : Document}

/-- What an artifact of a document stands for. -/
inductive StandsFor (base : String) (doc : Document) (fileName : String) (source : Option String) :
    Artifact → Prop where
  | type {d : DataType} {c : ClassDecl} (mem : d ∈ merged (definedTypes doc) (extendedTypes doc))
    (represents : Represents base source d c) : StandsFor base doc fileName source (.ofClass c)
  | operations {i : InterfaceDecl} (name : i.name = fetcherName fileName)
    (annotations : i.annotations = [component])
    (serves : List.Forall₂ (Serves base) (operations doc) i.methods) :
    StandsFor base doc fileName source (.ofInterface i)

theorem standsFor_of_dataClasses {classes : List ClassDecl}
    (h : (dataClasses base doc source).outcome = .ok classes) {c : ClassDecl} (hc : c ∈ classes) :
    StandsFor base doc fileName source (.ofClass c) := by
  obtain ⟨d, hd, hrep⟩ := Outcome.exists_of_forall₂ (represents_of_dataClasses h).2 hc
  exact .type hd hrep

theorem standsFor_of_fetcher {i : InterfaceDecl}
    (h : (fetcher base doc fileName).outcome = .ok i) :
    StandsFor base doc fileName source (.ofInterface i) := by
  obtain ⟨hname, hserves⟩ := serves_of_fetcher h
  obtain ⟨-, ms, -, rfl⟩ := fetcher_eq_ok_iff.mp h
  exact .operations hname rfl hserves

theorem standsFor_of_built {classes : List ClassDecl} {i : InterfaceDecl}
    (hclasses : (dataClasses base doc source).outcome = .ok classes)
    (hi : (fetcher base doc fileName).outcome = .ok i) {a : Artifact}
    (ha : a ∈ classes.map .ofClass ++ [.ofInterface i]) : StandsFor base doc fileName source a := by
  rcases class_or_fetcher ha with ⟨c, hc, rfl⟩ | rfl
  · exact standsFor_of_dataClasses hclasses hc
  · exact standsFor_of_fetcher hi

theorem standsFor_of_artifacts {as : List Artifact} (h : artifacts base doc fileName = .ok as)
    {a : Artifact} (ha : a ∈ as) : StandsFor base doc fileName (some fileName) a := by
  obtain ⟨classes, i, hclasses, hi, rfl⟩ := artifacts_eq_ok_iff.mp h
  exact standsFor_of_built hclasses hi ha

end SchemaToJava.Emission
