import Mathlib
import SchemaToJava.Proofs.Emission.Identifiers

/-!
The fetcher interface of a document: one method for each field of the definitions and extensions of
the two root types, and nothing from any other definition.
-/

namespace SchemaToJava.Emission

open GraphQL Java

def rootFieldsOf (r : Root) : Definition → List Field
  | .typeSystem (.object t) => if t.name = r.name then t.fields else []
  | .extension (.object t) => if t.name = r.name then t.fields else []
  | _ => []

def rootFields (r : Root) (doc : Document) : List Field := doc.definitions.flatMap (rootFieldsOf r)

def isRootDefinition : Definition → Bool
  | .typeSystem (.object t) => isRootName t.name
  | .extension (.object t) => isRootName t.name
  | _ => false

def operationsOf (d : Definition) : List Operation :=
  (rootFieldsOf .query d).map (⟨.query, ·⟩) ++ (rootFieldsOf .mutation d).map (⟨.mutation, ·⟩)

theorem isRootName_eq (name : String) : isRootName name = (Root.ofName? name).isSome := by
  by_cases hquery : name = "Query"
  · simp [isRootName, Root.ofName?, hquery]
  · by_cases hmutation : name = "Mutation" <;> simp [isRootName, Root.ofName?, hquery, hmutation]

theorem operationsOf_extension (item : TypeSystemItem) :
    operationsOf (.extension item) = operationsOf (.typeSystem item) := by
  cases item <;> rfl

theorem operationsOf_object (t : ObjectType) :
    operationsOf (.typeSystem (.object t)) =
      match Root.ofName? t.name with
      | some r => t.fields.map fun f => ⟨r, f⟩
      | none => [] := by
  by_cases hquery : t.name = "Query"
  · simp [Root.ofName?, operationsOf, rootFieldsOf, Root.name, hquery]
  · by_cases hmutation : t.name = "Mutation" <;>
      simp [Root.ofName?, operationsOf, rootFieldsOf, Root.name, hquery, hmutation]

theorem operationsOf_item (ext : Bool) (item : TypeSystemItem) :
    operationsOf (.typeSystem item) = match rootBlock? ext item with
      | some b => b.fields.map fun f => ⟨b.root, f⟩
      | none => [] := by
  cases item with
  | object t =>
    rw [operationsOf_object, rootBlock?]
    cases Root.ofName? t.name <;> rfl
  | _ => rfl

theorem operations_eq (doc : Document) :
    operations doc = doc.definitions.flatMap operationsOf := by
  rw [operations, rootBlocks]
  induction doc.definitions with
  | nil => rfl
  | cons d ds ih =>
    rw [List.flatMap_cons, ← ih]
    cases d with
    | operation name => rfl
    | fragment name => rfl
    | typeSystem item =>
      rw [operationsOf_item false]
      cases hb : rootBlock? false item <;> simp only [List.filterMap_cons, hb] <;> rfl
    | extension item =>
      rw [operationsOf_extension, operationsOf_item true]
      cases hb : rootBlock? true item <;> simp only [List.filterMap_cons, hb] <;> rfl

theorem operationsOf_of_not_root {d : Definition} (h : isRootDefinition d = false) :
    operationsOf d = [] := by
  have hobject : ∀ t : ObjectType, isRootName t.name = false →
      operationsOf (.typeSystem (.object t)) = [] := by
    intro t ht
    simp only [isRootName, Bool.or_eq_false_iff, beq_eq_false_iff_ne] at ht
    simp [operationsOf, rootFieldsOf, Root.name, ht.1, ht.2]
  cases d with
  | operation name => rfl
  | fragment name => rfl
  | typeSystem item =>
    cases item with
    | object t => exact hobject t h
    | _ => rfl
  | extension item =>
    cases item with
    | object t => exact hobject t h
    | _ => rfl

theorem operations_filter (doc : Document) :
    operations ⟨doc.definitions.filter isRootDefinition⟩ = operations doc := by
  rw [operations_eq, operations_eq]
  induction doc.definitions with
  | nil => rfl
  | cons d ds ih =>
    cases hd : isRootDefinition d with
    | true => rw [List.filter_cons_of_pos hd, List.flatMap_cons, List.flatMap_cons, ih]
    | false =>
      rw [List.filter_cons_of_neg (by simp [hd]), List.flatMap_cons, operationsOf_of_not_root hd,
        ih]
      rfl

theorem rootFields_eq (r : Root) (doc : Document) :
    rootFields r doc = ((operations doc).filter (·.root = r)).map (·.field) := by
  rw [operations_eq, List.filter_flatMap, List.map_flatMap, rootFields]
  refine congrArg (List.flatMap · _) (funext fun d => ?_)
  cases r <;> simp [operationsOf, List.filter_map, Function.comp_def]

theorem length_operations (doc : Document) :
    (operations doc).length =
      (rootFields .query doc).length + (rootFields .mutation doc).length := by
  rw [operations_eq, rootFields, rootFields]
  induction doc.definitions with
  | nil => rfl
  | cons d ds ih =>
    simp only [List.flatMap_cons, List.length_append, ih, operationsOf, List.length_map]
    omega

/-- The parameter that stands for an argument. -/
structure BindsArgument (base : String) (a : InputValue) (p : Parameter) : Prop where
  name : p.name = a.name
  type : javaType base a.type.base = .ok p.type
  annotations : ∃ as, (inputAnnotations a.type a.directives).outcome = .ok as ∧
    p.annotations = as ++ [inputArgument]

/-- The method that serves an operation. -/
structure Serves (base : String) (o : Operation) (m : MethodDecl) : Prop where
  name : m.name = o.field.name
  returnType : javaType base o.field.type.base = .ok m.returnType
  annotations : m.annotations = [o.root.marker]
  parameters : ∃ ps, List.Forall₂ (BindsArgument base) o.field.arguments ps ∧
    m.parameters = ps ++ [environmentParameter]

theorem bindsArgument_of_parameter {base : String} {a : InputValue} {p : Parameter}
    (h : (parameter base a).outcome = .ok p) : BindsArgument base a p := by
  simp only [parameter, Traced.outcome_bind, Traced.outcome_silently, Traced.outcome_pure,
    Outcome.bind_eq_ok_iff, requireIdentifier_eq_ok_iff, Except.ok.injEq] at h
  obtain ⟨type, htype, as, has, _, ⟨-, rfl⟩, rfl⟩ := h
  exact ⟨rfl, htype, as, has, rfl⟩

theorem serves_of_method {base : String} {o : Operation} {m : MethodDecl}
    (h : (method base o).outcome = .ok m) : Serves base o m := by
  simp only [method, Traced.outcome_bind, Traced.outcome_silently, Traced.outcome_pure,
    Traced.outcome_mapM, Outcome.bind_eq_ok_iff, Outcome.mapM_eq_ok_iff,
    requireIdentifier_eq_ok_iff, Except.ok.injEq] at h
  obtain ⟨ps, hps, type, htype, _, ⟨-, rfl⟩, rfl⟩ := h
  exact ⟨rfl, htype, rfl, ps, hps.imp fun _ _ => bindsArgument_of_parameter, rfl⟩

def Operation.key (o : Operation) : Root × String := (o.root, o.field.name)

/-- The operations are told apart by their keys, from one another and from those seen before. -/
structure DistinctKeys (seen : List (Root × String)) (os : List Operation) : Prop where
  nodup : (os.map Operation.key).Nodup
  unseen : ∀ o ∈ os, o.key ∉ seen

section Methods

variable {base : String} {seen : List (Root × String)} {o : Operation} {os : List Operation}
  {ms : List MethodDecl}

theorem distinctKeys_cons :
    DistinctKeys seen (o :: os) ↔ o.key ∉ seen ∧ DistinctKeys (o.key :: seen) os := by
  constructor
  · rintro ⟨hnodup, hunseen⟩
    rw [List.map_cons, List.nodup_cons] at hnodup
    rw [List.forall_mem_cons] at hunseen
    refine ⟨hunseen.1, hnodup.2, fun p hp hmem => ?_⟩
    rcases List.mem_cons.mp hmem with hsame | hmem
    · exact hnodup.1 (List.mem_map.mpr ⟨p, hp, hsame⟩)
    · exact hunseen.2 p hp hmem
  · rintro ⟨hkey, hnodup, hunseen⟩
    constructor
    · rw [List.map_cons, List.nodup_cons]
      refine ⟨fun hmem => ?_, hnodup⟩
      obtain ⟨p, hp, hsame⟩ := List.mem_map.mp hmem
      exact hunseen p hp (List.mem_cons.mpr (.inl hsame))
    · rw [List.forall_mem_cons]
      exact ⟨hkey, fun p hp hmem => hunseen p hp (List.mem_cons_of_mem _ hmem)⟩

theorem outcome_methods (h : DistinctKeys seen os) :
    (methods base seen os).outcome = (os.mapM (method base)).outcome := by
  induction os generalizing seen with
  | nil => rfl
  | cons o rest ih =>
    obtain ⟨hkey, hrest⟩ := distinctKeys_cons.mp h
    have hseen : ¬ seen.contains (o.root, o.field.name) = true := fun hmem =>
      hkey (List.contains_iff_mem.mp hmem)
    rw [methods, if_neg hseen, List.mapM_cons]
    simp only [Traced.outcome_bind, Traced.outcome_pure]
    rw [show (o.root, o.field.name) = o.key from rfl, ih hrest]

theorem distinctKeys_of_methods (h : (methods base seen os).outcome = .ok ms) :
    DistinctKeys seen os := by
  induction os generalizing seen ms with
  | nil => exact ⟨List.nodup_nil, by simp⟩
  | cons o rest ih =>
    rw [methods] at h
    split at h
    · cases h
    · rename_i hseen
      simp only [Traced.outcome_bind, Outcome.bind_eq_ok_iff] at h
      obtain ⟨m, -, rest', hrest, -⟩ := h
      exact distinctKeys_cons.mpr ⟨fun hmem => hseen (List.contains_iff_mem.mpr hmem), ih hrest⟩

/-- Methods are built one for each operation; that none was seen before is all that is asked of the
operations together. -/
theorem methods_eq_ok_iff :
    (methods base seen os).outcome = .ok ms ↔
      (os.map Operation.key).Nodup ∧ (∀ o ∈ os, o.key ∉ seen) ∧
        List.Forall₂ (fun o m => (method base o).outcome = .ok m) os ms := by
  rw [← Outcome.mapM_eq_ok_iff, ← Traced.outcome_mapM]
  constructor
  · intro h
    have hdistinct := distinctKeys_of_methods h
    exact ⟨hdistinct.nodup, hdistinct.unseen, (outcome_methods hdistinct).symm.trans h⟩
  · rintro ⟨hnodup, hunseen, h⟩
    exact (outcome_methods ⟨hnodup, hunseen⟩).trans h

end Methods

theorem nodup_keys_iff (doc : Document) :
    ((operations doc).map Operation.key).Nodup ↔
      ∀ r, ((rootFields r doc).map (·.name)).Nodup := by
  have hroots : (∀ r, ((rootFields r doc).map (·.name)).Nodup) ↔
      ((rootFields .query doc).map (·.name)).Nodup ∧
        ((rootFields .mutation doc).map (·.name)).Nodup :=
    ⟨fun h => ⟨h .query, h .mutation⟩, fun h r => (by cases r; exacts [h.1, h.2])⟩
  rw [hroots]
  simp only [rootFields_eq, List.Nodup, List.pairwise_map, List.pairwise_filter]
  rw [← List.pairwise_and_iff]
  refine List.Pairwise.iff fun {o p} => ?_
  obtain ⟨r, f⟩ := o
  obtain ⟨s, g⟩ := p
  cases r <;> cases s <;> simp [Operation.key]

structure OperationNames (f : Field) : Prop where
  name : f.name ∉ reservedWords
  type : isBuiltinScalar f.type.base = false → f.type.base ∉ reservedWords
  arguments : ∀ a ∈ f.arguments, a.name ∉ reservedWords ∧
    (isBuiltinScalar a.type.base = false → a.type.base ∉ reservedWords)

instance (f : Field) : Decidable (OperationNames f) :=
  decidable_of_iff
    (f.name ∉ reservedWords ∧
      (isBuiltinScalar f.type.base = false → f.type.base ∉ reservedWords) ∧
      ∀ a ∈ f.arguments, a.name ∉ reservedWords ∧
        (isBuiltinScalar a.type.base = false → a.type.base ∉ reservedWords))
    ⟨fun h => ⟨h.1, h.2.1, h.2.2⟩, fun h => ⟨h.name, h.type, h.arguments⟩⟩

def ShortArguments (doc : Document) : Prop :=
  ∀ r, ∀ f ∈ rootFields r doc, ∀ a ∈ f.arguments, ShortIntegers a.directives

theorem mem_rootFields {r : Root} {doc : Document} {f : Field} :
    f ∈ rootFields r doc ↔ (⟨r, f⟩ : Operation) ∈ operations doc := by
  simp only [rootFields_eq, List.mem_map, List.mem_filter, decide_eq_true_eq]
  constructor
  · rintro ⟨o, ⟨ho, rfl⟩, rfl⟩
    exact ho
  · intro h
    exact ⟨_, ⟨h, rfl⟩, rfl⟩

theorem not_reserved_iff (name : String) :
    name ∉ reservedWords ↔ (isBuiltinScalar name = false → name ∉ reservedWords) := by
  refine ⟨fun h _ => h, fun h => ?_⟩
  cases hbuiltin : builtinScalars.lookup name with
  | some t => exact not_reserved_of_lookup hbuiltin
  | none => exact h (by simp [isBuiltinScalar, hbuiltin])

theorem operationNames_iff (o : Operation) :
    (∀ u ∈ o.uses, u.2 ∉ reservedWords) ↔ OperationNames o.field := by
  simp only [Operation.uses, parameterUses, List.forall_mem_append, List.forall_mem_flatMap,
    List.forall_mem_cons, List.not_mem_nil, false_imp_iff, implies_true, and_true]
  constructor
  · rintro ⟨harguments, htype, hname⟩
    exact ⟨hname, fun _ => htype, fun a ha => ⟨(harguments a ha).2, fun _ => (harguments a ha).1⟩⟩
  · rintro ⟨hname, htype, harguments⟩
    refine ⟨fun a ha => ⟨?_, (harguments a ha).1⟩, (not_reserved_iff _).mpr htype, hname⟩
    exact (not_reserved_iff _).mpr (harguments a ha).2

theorem getLast?_fetcherName (fileName : String) :
    (fetcherName fileName).toList.getLast? = some 'r' := by
  rw [fetcherName, String.toList_append]
  simp

section Documents

variable {base fileName : String} {doc : Document}

theorem screens_operations (hdoc : doc.Named) (hshort : ShortArguments doc) :
    Screens ((operations doc).flatMap Operation.uses) ((operations doc).mapM (method base)) :=
  .mapM fun o ho => screens_method base (named_operations hdoc o ho)
    (hshort o.root o.field (mem_rootFields.mpr ho))

theorem methods_succeed_iff (hdoc : doc.Named) (hshort : ShortArguments doc) :
    (∃ ms, (methods base [] (operations doc)).outcome = .ok ms) ↔
      (∀ r, ((rootFields r doc).map (·.name)).Nodup) ∧
        ∀ r, ∀ f ∈ rootFields r doc, OperationNames f := by
  have hnames : (∃ ms, ((operations doc).mapM (method base)).outcome = .ok ms) ↔
      ∀ r, ∀ f ∈ rootFields r doc, OperationNames f := by
    rw [(screens_operations hdoc hshort).succeeds_iff, List.forall_mem_flatMap]
    simp only [operationNames_iff]
    exact ⟨fun h r f hf => h _ (mem_rootFields.mp hf), fun h o ho =>
      h o.root o.field (mem_rootFields.mpr ho)⟩
  simp only [Traced.outcome_mapM, Outcome.mapM_eq_ok_iff] at hnames
  simp only [methods_eq_ok_iff, ← hnames, ← nodup_keys_iff]
  simp

theorem fetcher_succeeds_iff (hdoc : doc.Named) (hshort : ShortArguments doc) :
    (∃ i, (fetcher base doc fileName).outcome = .ok i) ↔
      (∀ r, ((rootFields r doc).map (·.name)).Nodup) ∧
        (∀ r, ∀ f ∈ rootFields r doc, OperationNames f) ∧
          LegalIdentifier (fetcherName fileName) := by
  have hend : (fetcherName fileName).toList.getLast? ≠ some '\n' := by
    rw [getLast?_fetcherName]
    decide
  have hmethods : (∃ ms, (methods base [] (operations doc)).outcome = .ok ms) ↔ _ :=
    methods_succeed_iff hdoc hshort
  rw [← and_assoc, ← hmethods, ← isIdentifier_iff_legal hend]
  simp only [fetcher_eq_ok_iff]
  constructor
  · rintro ⟨i, hname, ms, hms, -⟩
    exact ⟨⟨ms, hms⟩, hname⟩
  · rintro ⟨⟨ms, hms⟩, hname⟩
    exact ⟨_, hname, ms, hms, rfl⟩

theorem serves_of_fetcher {i : InterfaceDecl} (h : (fetcher base doc fileName).outcome = .ok i) :
    i.name = fetcherName fileName ∧ List.Forall₂ (Serves base) (operations doc) i.methods := by
  obtain ⟨-, ms, hms, rfl⟩ := fetcher_eq_ok_iff.mp h
  obtain ⟨-, -, hall⟩ := methods_eq_ok_iff.mp hms
  exact ⟨rfl, hall.imp fun _ _ => serves_of_method⟩

/-- A fetcher interface is built exactly if neither root type has a field twice, no name that its
methods need is reserved and the name of the file makes an identifier. It then has one method for
each field of the root types, and other definitions make no difference to it. -/
theorem fetcher_of_document (doc : Document) (base fileName : String) :
    (∀ text, Document.parse text = .ok doc → ShortArguments doc →
      ((∃ i, (fetcher base doc fileName).outcome = .ok i) ↔
        (∀ r, ((rootFields r doc).map (·.name)).Nodup) ∧
          (∀ r, ∀ f ∈ rootFields r doc, OperationNames f) ∧
            LegalIdentifier (fetcherName fileName))) ∧
    (∀ i, (fetcher base doc fileName).outcome = .ok i →
      i.name = fetcherName fileName ∧
      List.Forall₂ (Serves base) (doc.definitions.flatMap operationsOf) i.methods ∧
      i.methods.length = (rootFields .query doc).length + (rootFields .mutation doc).length) ∧
    fetcher base ⟨doc.definitions.filter isRootDefinition⟩ fileName = fetcher base doc fileName := by
  refine ⟨fun text hparse hshort => ?_, fun i hi => ?_, ?_⟩
  · exact fetcher_succeeds_iff (Document.named_of_parse hparse) hshort
  · obtain ⟨hname, hserves⟩ := serves_of_fetcher hi
    refine ⟨hname, operations_eq doc ▸ hserves, ?_⟩
    rw [← hserves.length_eq, length_operations]
  · rw [fetcher, fetcher, operations_filter]

end Documents

def mixedRootsText : List Char :=
  ("extend type Mutation \x7b user(id: ID @Max(value: 5)): User \x7d " ++
    "input Query \x7b a: Int \x7d type Query \x7b user: User \x7d").toList

def mixedRootsDocument : Document :=
  ⟨[.extension (.object ⟨none, "Mutation", [], [],
      [⟨none, "user", [⟨none, "id", .named "ID", none, [⟨"Max", [("value", .int "5")]⟩]⟩],
        .named "User", []⟩]⟩),
    .typeSystem (.input ⟨none, "Query", [], [⟨none, "a", .named "Int", none, []⟩]⟩),
    .typeSystem (.object ⟨none, "Query", [], [], [⟨none, "user", [], .named "User", []⟩]⟩)]⟩

theorem parse_mixedRootsText : Document.parse mixedRootsText = .ok mixedRootsDocument := by
  cbv

theorem shortArguments_mixedRootsDocument : ShortArguments mixedRootsDocument := by
  intro r
  cases r <;> simp [rootFields, rootFieldsOf, mixedRootsDocument, Root.name, ShortIntegers]
  decide

theorem fetcher_mixedRootsDocument :
    Document.parse mixedRootsText = .ok mixedRootsDocument ∧
      ShortArguments mixedRootsDocument ∧
      ∃ i, (fetcher "p" mixedRootsDocument "user.graphqls").outcome = .ok i ∧
        i.name = "UserFetcher" ∧ i.methods.length = 2 := by
  obtain ⟨hsucceeds, hserves, -⟩ := fetcher_of_document mixedRootsDocument "p" "user.graphqls"
  have hnodup : ∀ r, ((rootFields r mixedRootsDocument).map (·.name)).Nodup := by
    intro r
    cases r <;> decide
  have hnames : ∀ r, ∀ f ∈ rootFields r mixedRootsDocument, OperationNames f := by
    intro r
    cases r <;> decide
  have hlegal : LegalIdentifier (fetcherName "user.graphqls") :=
    (isIdentifier_iff_legal (by decide)).mp (by decide)
  obtain ⟨i, hi⟩ := (hsucceeds _ parse_mixedRootsText shortArguments_mixedRootsDocument).mpr
    ⟨hnodup, hnames, hlegal⟩
  obtain ⟨hname, -, hlength⟩ := hserves i hi
  exact ⟨parse_mixedRootsText, shortArguments_mixedRootsDocument, i, hi, hname, hlength⟩

end SchemaToJava.Emission
