import SchemaToJava.Proofs.Emission.Constraint
import SchemaToJava.Proofs.Java.LiteralReader
import SchemaToJava.Proofs.Outcome

/-!
What annotations say. A directive of the catalogue becomes one annotation, and the values that the
annotation gives, once they are read, are the texts, integers and booleans of the directive.
-/

namespace SchemaToJava.Emission

open GraphQL Java

def writtenLiteral? : Value → Option Literal
  | .string s => some (.string s)
  | .int s => some (.int (numeralValue s))
  | .boolean b => some (.boolean b)
  | _ => none

def writtenLiterals (args : List (String × Value)) : List (String × Literal) :=
  args.filterMap fun a => (writtenLiteral? a.2).map (a.1, ·)

def recognised (ds : List Directive) : List Directive := ds.filter (·.name ∈ catalogue)

/-- The annotation is the one for the directive, with a member for each of its literals. -/
structure WrittenFor (d : Directive) (a : AnnotationUse) : Prop where
  type : a.type = .inPackage validationPackage d.name
  members : a.members = (writtenLiterals d.arguments).map fun l => ⟨l.1, l.2.text⟩

theorem eq_writtenLiteral? {v : Value} (hv : v.Numeric) {l : Option Literal}
    (h : literal? v = .ok l) : l = writtenLiteral? v := by
  cases v with
  | int s =>
    have hread := readInteger_of_isNumeral (hv s rfl)
    by_cases hshort : digitCount s ≤ Text.maxDecimalDigits
    · rw [if_pos hshort] at hread
      simp only [literal?, hread] at h
      exact (Except.ok.inj h).symm
    · rw [if_neg hshort] at hread
      simp only [literal?, hread] at h
      cases h
  | string s => exact (Except.ok.inj h).symm
  | boolean b => exact (Except.ok.inj h).symm
  | _ => exact (Except.ok.inj h).symm

theorem eq_writtenLiterals {args : List (String × Value)} (hargs : ∀ a ∈ args, a.2.Numeric)
    {ls : List (String × Literal)} (h : literalArguments args = .ok ls) :
    ls = writtenLiterals args := by
  induction args generalizing ls with
  | nil => exact (Except.ok.inj h).symm
  | cons a rest ih =>
    have hrest : ∀ {ls}, literalArguments rest = .ok ls → ls = writtenLiterals rest :=
      ih fun b hb => hargs b (List.mem_cons_of_mem a hb)
    rw [literalArguments] at h
    obtain ⟨l, hl, h⟩ := Outcome.bind_eq_ok_iff.mp h
    have hvalue := eq_writtenLiteral? (hargs a List.mem_cons_self) hl
    cases l with
    | none =>
      rw [writtenLiterals, List.filterMap_cons_none (by rw [← hvalue]; rfl)]
      exact hrest h
    | some l =>
      obtain ⟨ls', hls, h⟩ := Outcome.bind_eq_ok_iff.mp h
      rw [writtenLiterals, List.filterMap_cons_some (by rw [← hvalue]; rfl), ← writtenLiterals,
        ← hrest hls]
      exact (Except.ok.inj h).symm

theorem writtenFor_of_constraint {d : Directive} (hd : ∀ a ∈ d.arguments, a.2.Numeric)
    {a : AnnotationUse} (h : constraint d = .ok a) : WrittenFor d a := by
  obtain ⟨ls, hls, h⟩ := Outcome.bind_eq_ok_iff.mp h
  cases h
  exact ⟨rfl, by rw [eq_writtenLiterals hd hls]⟩

theorem writtenFor_of_constraints {ds : List Directive} (hnumeric : NumericArguments ds)
    {as : List AnnotationUse} (h : (constraints ds).outcome = .ok as) :
    List.Forall₂ WrittenFor (recognised ds) as := by
  induction ds generalizing as with
  | nil =>
    cases h
    exact .nil
  | cons d rest ih =>
    have hrest : ∀ {as}, (constraints rest).outcome = .ok as →
        List.Forall₂ WrittenFor (recognised rest) as :=
      ih fun e he => hnumeric e (List.mem_cons_of_mem d he)
    rw [constraints] at h
    split at h
    · rename_i hname
      rw [recognised, List.filter_cons_of_pos (by simpa using hname)]
      simp only [Traced.outcome_bind, Traced.outcome_silently, Traced.outcome_pure,
        Outcome.bind_eq_ok_iff, Except.ok.injEq] at h
      obtain ⟨a, ha, as', has, rfl⟩ := h
      exact .cons (writtenFor_of_constraint (hnumeric d List.mem_cons_self) ha) (hrest has)
    · rename_i hname
      rw [recognised, List.filter_cons_of_neg (by simpa using hname)]
      simp only [Traced.outcome_bind, Traced.outcome_note, Outcome.bind_eq_ok_iff] at h
      obtain ⟨-, -, h⟩ := h
      exact hrest h

/-- Reading the annotation yields the literals of the directive, under the same names. -/
structure CarriesOver (d : Directive) (a : AnnotationUse) : Prop where
  type : a.type = .inPackage "jakarta.validation.constraints" d.name
  members : a.members.map (fun m => (m.name, readLiteral? m.value)) =
    (writtenLiterals d.arguments).map fun l => (l.1, some l.2)

theorem WrittenFor.carriesOver {d : Directive} {a : AnnotationUse} (h : WrittenFor d a) :
    CarriesOver d a := by
  refine ⟨h.type, ?_⟩
  rw [h.members, List.map_map]
  exact List.map_congr_left fun l _ => congrArg (Prod.mk l.1) (readLiteral?_text l.2)

theorem constraints_append (ds es : List Directive) :
    constraints (ds ++ es) = do
      let as ← constraints ds
      let bs ← constraints es
      return as ++ bs := by
  induction ds with
  | nil => simp [constraints]
  | cons d rest ih =>
    rw [List.cons_append, constraints, constraints, ih]
    split <;> simp

/-- Annotations carry over what the directives of the catalogue say, no two literals have the same
text, and annotations of more directives are those of each part in turn. -/
theorem metadata_of_constraints {ds : List Directive} (hnumeric : NumericArguments ds)
    (hshort : ShortIntegers ds) :
    (∃ as, (constraints ds).outcome = .ok as ∧
      List.Forall₂ CarriesOver (ds.filter (·.name ∈ catalogue)) as) ∧
    Function.Injective Literal.text ∧
    ∀ es, constraints (ds ++ es) = do
      let as ← constraints ds
      let bs ← constraints es
      return as ++ bs := by
  obtain ⟨as, has⟩ := constraints_ok hnumeric hshort
  refine ⟨⟨as, has, ?_⟩, Literal.text_injective, constraints_append ds⟩
  exact (writtenFor_of_constraints hnumeric has).imp fun _ _ => WrittenFor.carriesOver

def mixedDirectives : List Directive :=
  [⟨"Size", [("min", .int "-0"), ("ratio", .float "0.1"), ("message", .string "10")]⟩,
    ⟨"deprecated", [("reason", .string "old")]⟩, ⟨"Digits", [("strict", .boolean true)]⟩]

theorem numericArguments_mixedDirectives : NumericArguments mixedDirectives := by
  have hzero : IsNumeral "-0" := ⟨['0'], by simp, List.forall_mem_singleton.mpr rfl, .inr rfl⟩
  simp only [NumericArguments, mixedDirectives, List.forall_mem_cons, List.not_mem_nil,
    false_imp_iff, implies_true, and_true]
  refine ⟨⟨?_, nofun, nofun⟩, nofun, nofun⟩
  intro s hs
  exact Value.int.inj hs ▸ hzero

theorem shortIntegers_mixedDirectives : ShortIntegers mixedDirectives := by
  simp only [ShortIntegers, mixedDirectives, List.forall_mem_cons, List.not_mem_nil,
    false_imp_iff, implies_true, and_true]
  refine ⟨⟨?_, nofun, nofun⟩, nofun, nofun⟩
  intro s hs
  exact Value.int.inj hs ▸ (by decide : digitCount "-0" ≤ Text.maxDecimalDigits)

theorem metadata_mixedDirectives :
    NumericArguments mixedDirectives ∧ ShortIntegers mixedDirectives ∧
      ∃ a b, (constraints mixedDirectives).outcome = .ok [a, b] ∧
        a.members.map (fun m => (m.name, readLiteral? m.value)) =
          [("min", some (.int 0)), ("message", some (.string "10"))] ∧
        b.members.map (fun m => (m.name, readLiteral? m.value)) =
          [("strict", some (.boolean true))] := by
  obtain ⟨⟨as, has, hall⟩, -, -⟩ :=
    metadata_of_constraints numericArguments_mixedDirectives shortIntegers_mixedDirectives
  refine ⟨numericArguments_mixedDirectives, shortIntegers_mixedDirectives, ?_⟩
  obtain ⟨a, _, ha, hlater, rfl⟩ := List.forall₂_cons_left_iff.mp hall
  obtain ⟨b, _, hb, hnone, rfl⟩ := List.forall₂_cons_left_iff.mp hlater
  obtain rfl := List.forall₂_nil_left_iff.mp hnone
  exact ⟨a, b, has, ha.members, hb.members⟩

end SchemaToJava.Emission
