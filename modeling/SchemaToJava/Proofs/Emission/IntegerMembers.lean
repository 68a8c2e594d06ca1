import Mathlib.Data.List.Forall2
import SchemaToJava.Proofs.Emission.LegalNames
import SchemaToJava.Proofs.Emission.Metadata
import SchemaToJava.Proofs.Java.IntegerLiteral

/-!
The integers in the annotations of generated files. Each stands for an integer of the schema and is
written with its digits whatever its size, so that Java admits those of 32 bits and no others.
-/

namespace SchemaToJava.Emission

open GraphQL Java

def DataType.checked (d : DataType) : List Directive :=
  match d.kind with
  | .input => d.fields.flatMap (·.directives)
  | .object => []

def Operation.checked (o : Operation) : List Directive := o.field.arguments.flatMap (·.directives)

/-- The directives of a document that can become annotations: those on the fields of input types and
those on the arguments of operations. -/
def checkedDirectives (doc : Document) : List Directive :=
  (merged (definedTypes doc) (extendedTypes doc)).flatMap DataType.checked ++
    (operations doc).flatMap Operation.checked

def constraintsAmong (as : List AnnotationUse) : List AnnotationUse :=
  as.filter (·.type ∈ catalogue.map (.inPackage validationPackage ·))

theorem constraintsAmong_append (as bs : List AnnotationUse) :
    constraintsAmong (as ++ bs) = constraintsAmong as ++ constraintsAmong bs := List.filter_append ..

theorem constraintsAmong_flatMap {α : Type} (f : α → List AnnotationUse) (xs : List α) :
    constraintsAmong (xs.flatMap f) = xs.flatMap fun x => constraintsAmong (f x) :=
  List.filter_flatMap

theorem recognised_flatMap {α : Type} (f : α → List Directive) (xs : List α) :
    recognised (xs.flatMap f) = xs.flatMap fun x => recognised (f x) := List.filter_flatMap

theorem constraintsAmong_eq_self {ds : List Directive} {as : List AnnotationUse}
    (h : List.Forall₂ WrittenFor (recognised ds) as) : constraintsAmong as = as := by
  refine List.filter_eq_self.mpr fun a ha => decide_eq_true ?_
  obtain ⟨d, hd, hwritten⟩ := Outcome.exists_of_forall₂ h ha
  rw [hwritten.type]
  exact List.mem_map_of_mem (by simpa using (List.mem_filter.mp hd).2)

theorem writtenFor_of_inputAnnotations {type : TypeExpr} {ds : List Directive}
    (hnumeric : NumericArguments ds) {as : List AnnotationUse}
    (h : (inputAnnotations type ds).outcome = .ok as) :
    List.Forall₂ WrittenFor (recognised ds) (constraintsAmong as) := by
  obtain ⟨cs, hcs, rfl⟩ := inputAnnotations_eq_ok_iff.mp h
  have hwritten := writtenFor_of_constraints hnumeric hcs
  have hnotNull : constraintsAmong (notNull :: cs) = constraintsAmong cs :=
    List.filter_cons_of_neg (by decide)
  split
  · rwa [hnotNull, constraintsAmong_eq_self hwritten]
  · rwa [constraintsAmong_eq_self hwritten]

section Artifacts

variable {base fileName : String} {source : Option String}

theorem forall₂_flatMap {α β γ δ : Type} {R : α → β → Prop} {S : γ → δ → Prop} {f : α → List γ}
    {g : β → List δ} {xs : List α} {ys : List β} (h : List.Forall₂ R xs ys)
    (hfg : ∀ x ∈ xs, ∀ y, R x y → List.Forall₂ S (f x) (g y)) :
    List.Forall₂ S (xs.flatMap f) (ys.flatMap g) :=
  List.rel_flatMap ((List.forall₂_and_left _ _).mpr ⟨fun _ hx => hx, h⟩) fun _ _ hxy =>
    hfg _ hxy.1 _ hxy.2

theorem writtenFor_of_represents {d : DataType} {c : ClassDecl} (hd : d.Named)
    (h : Represents base source d c) :
    List.Forall₂ WrittenFor (recognised d.checked)
      (constraintsAmong (annotationUses (.ofClass c))) := by
  have hmarkers : constraintsAmong dataClassAnnotations = [] := by decide
  have hfields := h.fields
  rw [annotationUses, h.annotations, constraintsAmong_append, hmarkers, List.nil_append,
    constraintsAmong_flatMap, DataType.checked]
  cases hkind : d.kind with
  | object =>
    have hnone : (c.fields.flatMap fun g => constraintsAmong g.annotations) = [] := by
      refine List.flatMap_eq_nil_iff.mpr fun g hg => ?_
      obtain ⟨f, -, hfield⟩ := Outcome.exists_of_forall₂ hfields hg
      have hempty := hfield.annotations
      rw [hkind] at hempty
      rw [← Except.ok.inj hempty]
      rfl
    rw [hnone]
    exact .nil
  | input =>
    rw [hkind] at hfields
    rw [recognised_flatMap]
    refine forall₂_flatMap hfields fun f hf g hfield => ?_
    have hnumeric := numericArguments_of_named (hd.fields f hf).directives
    exact writtenFor_of_inputAnnotations hnumeric hfield.annotations

theorem writtenFor_of_bindsArgument {a : InputValue} {p : Parameter} (ha : a.Named)
    (h : BindsArgument base a p) :
    List.Forall₂ WrittenFor (recognised a.directives) (constraintsAmong p.annotations) := by
  have hmarker : constraintsAmong [inputArgument] = [] := by decide
  obtain ⟨as, has, heq⟩ := h.annotations
  rw [heq, constraintsAmong_append, hmarker, List.append_nil]
  exact writtenFor_of_inputAnnotations (numericArguments_of_named ha.directives) has

theorem writtenFor_of_serves {o : Operation} {m : MethodDecl} (ho : o.field.Named)
    (h : Serves base o m) :
    List.Forall₂ WrittenFor (recognised o.checked)
      (constraintsAmong (m.annotations ++ m.parameters.flatMap (·.annotations))) := by
  have hmarker : constraintsAmong [o.root.marker] = [] := by
    cases o.root <;> decide
  have henvironment : environmentParameter.annotations = [] := rfl
  obtain ⟨ps, hps, hparameters⟩ := h.parameters
  rw [h.annotations, hparameters, constraintsAmong_append, hmarker, List.nil_append,
    List.flatMap_append, List.flatMap_singleton, henvironment, List.append_nil,
    constraintsAmong_flatMap, Operation.checked, recognised_flatMap]
  exact forall₂_flatMap hps fun a ha p hp => writtenFor_of_bindsArgument (ho.arguments a ha) hp

/-- The annotations of all artifacts of a document are those for its directives, in order. -/
theorem writtenFor_of_artifacts {doc : Document} (hdoc : doc.Named) {as : List Artifact}
    (h : artifacts base doc fileName = .ok as) :
    List.Forall₂ WrittenFor (recognised (checkedDirectives doc))
      (constraintsAmong (as.flatMap annotationUses)) := by
  obtain ⟨classes, i, hclasses, hi, rfl⟩ := artifacts_eq_ok_iff.mp h
  obtain ⟨-, hrepresents⟩ := represents_of_dataClasses hclasses
  obtain ⟨-, hserves⟩ := serves_of_fetcher hi
  obtain ⟨-, ms, -, rfl⟩ := fetcher_eq_ok_iff.mp hi
  have hcomponent : constraintsAmong [component] = [] := by decide
  rw [List.flatMap_append, List.flatMap_map, List.flatMap_singleton, annotationUses,
    constraintsAmong_append, constraintsAmong_append, hcomponent, List.nil_append,
    constraintsAmong_flatMap, constraintsAmong_flatMap, checkedDirectives, recognised,
    List.filter_append, ← recognised, ← recognised, recognised_flatMap, recognised_flatMap]
  refine List.rel_append ?_ ?_
  · exact forall₂_flatMap hrepresents fun d hd c hc =>
      writtenFor_of_represents (named_merged hdoc d hd) hc
  · exact forall₂_flatMap hserves fun o ho m hm =>
      writtenFor_of_serves (named_operations hdoc o ho) hm

end Artifacts

/-- The member gives the literal under its name. An integer is given by its digits, which Java
accepts exactly if the integer has 32 bits. -/
structure GivesLiteral (l : String × Literal) (m : Member) : Prop where
  name : m.name = l.1
  value : readLiteral? m.value = some l.2
  accepted : ∀ n, l.2 = .int n →
    integerLiteral? m.value = if -2 ^ 31 ≤ n ∧ n < 2 ^ 31 then some n else none

theorem givesLiteral_text (name : String) (l : Literal) : GivesLiteral (name, l) ⟨name, l.text⟩ := by
  refine ⟨rfl, readLiteral?_text l, fun n hn => ?_⟩
  obtain rfl : l = .int n := hn
  exact integerLiteral?_toString n

/-- The annotations in generated files give the literals of the directives that they are for, one for
one; and Java accepts those integers among them that have 32 bits, and no others. -/
theorem integers_of_artifacts {text : List Char} {doc : Document}
    (hparse : Document.parse text = .ok doc) {base fileName : String} {as : List Artifact}
    (h : artifacts base doc fileName = .ok as) :
    List.Forall₂
      (fun d a => a.type = .inPackage validationPackage d.name ∧
        List.Forall₂ GivesLiteral (writtenLiterals d.arguments) a.members)
      (recognised (checkedDirectives doc)) (constraintsAmong (as.flatMap annotationUses)) := by
  refine (writtenFor_of_artifacts (Document.named_of_parse hparse) h).imp fun d a hwritten => ?_
  refine ⟨hwritten.type, ?_⟩
  rw [hwritten.members, List.forall₂_map_right_iff, List.forall₂_same]
  exact fun l _ => givesLiteral_text l.1 l.2

def boundaryText : List Char :=
  "input A \x7b a: Int @Min(value: -2147483648) @Max(value: 2147483648) \x7d".toList

def boundaryDocument : Document :=
  ⟨[.typeSystem (.input ⟨none, "A", [], [⟨none, "a", .named "Int", none,
    [⟨"Min", [("value", .int "-2147483648")]⟩, ⟨"Max", [("value", .int "2147483648")]⟩]⟩]⟩)]⟩

def boundaryArtifacts : List Artifact :=
  [.ofClass ⟨"p.types", "A", dataClassAnnotations,
      [⟨"a", .primitive "int",
        [⟨.inPackage validationPackage "Min", [⟨"value", "-2147483648"⟩]⟩,
          ⟨.inPackage validationPackage "Max", [⟨"value", "2147483648"⟩]⟩]⟩],
      some "a.graphqls"⟩,
    .ofInterface ⟨"p.fetchers", "AFetcher", [component], [], some "a.graphqls"⟩]

theorem parse_boundaryText : Document.parse boundaryText = .ok boundaryDocument := by
  cbv

theorem artifacts_boundaryDocument :
    artifacts "p" boundaryDocument "a.graphqls" = .ok boundaryArtifacts := by
  decide

theorem integers_boundaryDocument :
    Document.parse boundaryText = .ok boundaryDocument ∧
      artifacts "p" boundaryDocument "a.graphqls" = .ok boundaryArtifacts ∧
      integerLiteral? "-2147483648" = some (-2147483648) ∧ integerLiteral? "2147483648" = none := by
  have huses : constraintsAmong (boundaryArtifacts.flatMap annotationUses) =
      [⟨.inPackage validationPackage "Min", [⟨"value", "-2147483648"⟩]⟩,
        ⟨.inPackage validationPackage "Max", [⟨"value", "2147483648"⟩]⟩] := by
    decide
  have hall := integers_of_artifacts parse_boundaryText artifacts_boundaryDocument
  rw [huses] at hall
  obtain ⟨⟨-, hmin⟩, hlater⟩ := List.forall₂_cons.mp hall
  obtain ⟨⟨-, hmax⟩, -⟩ := List.forall₂_cons.mp hlater
  obtain ⟨hleast, -⟩ := List.forall₂_cons.mp hmin
  obtain ⟨hfirst, -⟩ := List.forall₂_cons.mp hmax
  exact ⟨parse_boundaryText, artifacts_boundaryDocument, hleast.accepted _ rfl,
    hfirst.accepted _ rfl⟩

/-- An integer that Java refuses is written all the same, and nothing is reported. -/
theorem refused_integer :
    Document.parse boundaryText = .ok boundaryDocument ∧
      artifacts "p" boundaryDocument "a.graphqls" = .ok boundaryArtifacts ∧
      ⟨"Max", [("value", .int "2147483648")]⟩ ∈ recognised (checkedDirectives boundaryDocument) ∧
      ⟨.inPackage validationPackage "Max", [⟨"value", "2147483648"⟩]⟩ ∈
        constraintsAmong (boundaryArtifacts.flatMap annotationUses) ∧
      integerLiteral? "2147483648" = none := by
  refine ⟨parse_boundaryText, artifacts_boundaryDocument, ?_, by decide, by decide⟩
  exact List.mem_cons_of_mem _ List.mem_cons_self

end SchemaToJava.Emission
