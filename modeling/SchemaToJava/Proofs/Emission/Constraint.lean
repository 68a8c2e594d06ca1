import SchemaToJava.Emission.Constraint
import SchemaToJava.Proofs.GraphQL.Names

/-!
When directives become annotations. Only an integer can stand in the way, and only one with more
digits than are read: every integer of a document is a numeral, so it has no other flaw.
-/

namespace SchemaToJava.Emission

open GraphQL Java Text

section Digit

variable {c : Char} (h : GraphQL.isDigit c = true)

include h

theorem toNat_of_isDigit : 48 ≤ c.toNat ∧ c.toNat ≤ 57 := by
  simp only [GraphQL.isDigit, Bool.and_eq_true, decide_eq_true_eq, Char.le_def,
    UInt32.le_iff_toNat_le] at h
  exact h

theorem numeralChar_of_isDigit : numeralChar (.char c) = c := by
  have hc := toNat_of_isDigit h
  have hvalue : decimalValue? c = some (c.toNat - 48) :=
    decimalValue?_of_isDigit (by
      simp only [Char.isDigit, Bool.and_eq_true, decide_eq_true_eq]
      exact ⟨UInt32.le_iff_toNat_le.mpr hc.1, UInt32.le_iff_toNat_le.mpr hc.2⟩)
  have hnat : c.toNat - 48 + 48 = c.toNat := by omega
  rw [numeralChar, if_neg (by simp; omega), hvalue, Option.elim_some, hnat, Char.ofNat_toNat]

theorem isBlank_of_isDigit : isBlank c = false := by
  have hc := toNat_of_isDigit h
  simp only [isBlank, Bool.or_eq_false_iff, Bool.and_eq_false_iff, decide_eq_false_iff_not,
    beq_eq_false_iff_ne]
  omega

theorem digitValue?_of_isDigit : digitValue? 10 c = some (c.toNat - 48) := by
  have hc := toNat_of_isDigit h
  have hrange : ('0' ≤ c && c ≤ '9') = true := h
  rw [digitValue?]
  simp only [hrange, if_true]
  exact if_pos (by omega)

end Digit

theorem trimChars_of_not_blank {cs : List Char} (h : ∀ c ∈ cs, isBlank c = false) :
    trimChars cs = cs := by
  have hdrop : ∀ ds : List Char, (∀ d ∈ ds, isBlank d = false) → ds.dropWhile isBlank = ds := by
    intro ds hds
    cases ds with
    | nil => rfl
    | cons d ds => exact List.dropWhile_cons_of_neg (by simp [hds d])
  rw [trimChars, hdrop cs h, hdrop _ fun d hd => h d (List.mem_reverse.mp hd), List.reverse_reverse]

theorem readDigits?_of_isDigit {ds : List Char} (hne : ds ≠ [])
    (h : ∀ d ∈ ds, GraphQL.isDigit d = true) :
    readDigits? 10 ds = some (Nat.ofDigitChars 10 ds 0) := by
  have hfold : ∀ (ds : List Char) (k : Nat), (∀ d ∈ ds, GraphQL.isDigit d = true) →
      ds.foldl (fun n c => do return (← n) * 10 + (← digitValue? 10 c)) (some k) =
        some (Nat.ofDigitChars 10 ds k) := by
    intro ds
    induction ds with
    | nil => exact fun k _ => rfl
    | cons d ds ih =>
      intro k hds
      have hd := digitValue?_of_isDigit (hds d List.mem_cons_self)
      rw [List.foldl_cons, hd, Nat.ofDigitChars_cons, Nat.mul_comm 10 k]
      exact ih _ fun e he => hds e (List.mem_cons_of_mem d he)
  rw [readDigits?, if_neg (by simpa using hne)]
  exact hfold ds 0 h

theorem withoutBaseMark_ten (cs : List Char) : withoutBaseMark 10 cs = cs := by
  unfold withoutBaseMark
  split
  · exact if_neg (by simp [baseMarks])
  · rfl

def digitCount (s : String) : Nat := s.toList.countP GraphQL.isDigit

def numeralValue (s : String) : Int :=
  match s.toList with
  | '-' :: ds => -(Nat.ofDigitChars 10 ds 0 : Nat)
  | ds => (Nat.ofDigitChars 10 ds 0 : Nat)

theorem splitSign_of_isNumeral {s : String} (hs : IsNumeral s) :
    ∃ negative ds, splitSign (numeral (.ofString s)) = (negative, ds) ∧ ds ≠ [] ∧
      (∀ d ∈ ds, GraphQL.isDigit d = true) ∧ ds.length = digitCount s ∧
      signed negative (Nat.ofDigitChars 10 ds 0) = numeralValue s := by
  obtain ⟨ds, hne, hds, hwritten⟩ := hs.written
  have hcount : ds.countP GraphQL.isDigit = ds.length := List.countP_eq_length.mpr hds
  -- Signs and digits are read as they stand and are not trimmed, so the numeral is the text itself.
  have hchar : ∀ c ∈ s.toList, numeralChar (.char c) = c ∧ isBlank c = false := by
    intro c hc
    have hcases : c = '-' ∨ c ∈ ds := by
      rcases hwritten with hw | hw <;> rw [hw] at hc
      · exact .inr hc
      · exact List.mem_cons.mp hc
    rcases hcases with rfl | hc
    · decide
    · exact ⟨numeralChar_of_isDigit (hds c hc), isBlank_of_isDigit (hds c hc)⟩
  have hnumeral : numeral (.ofString s) = s.toList := by
    have hmap : s.toList.map (fun c => numeralChar (.char c)) = s.toList :=
      (List.map_congr_left fun c hc => (hchar c hc).1).trans (List.map_id _)
    rw [numeral, Wide.ofString, Wide.ofChars, List.map_map]
    exact (congrArg trimChars hmap).trans (trimChars_of_not_blank fun c hc => (hchar c hc).2)
  rw [hnumeral, digitCount, numeralValue]
  rcases hwritten with hw | hw <;> rw [hw]
  · refine ⟨false, ds, ?_, hne, hds, hcount.symm, ?_⟩
    · unfold splitSign
      split
      · exact absurd (hds '-' List.mem_cons_self) (by decide)
      · exact absurd (hds '+' List.mem_cons_self) (by decide)
      · rfl
    · split
      · exact absurd (hds '-' List.mem_cons_self) (by decide)
      · rfl
  · exact ⟨true, ds, rfl, hne, hds, by rw [List.countP_cons_of_neg (by decide), hcount], rfl⟩

/-- A numeral is read as the integer that it writes, unless it has too many digits. -/
theorem readInteger_of_isNumeral {s : String} (hs : IsNumeral s) :
    readInteger 10 (.ofString s) =
      if digitCount s ≤ maxDecimalDigits then .ok (numeralValue s)
      else .error (.tooManyDigits (digitCount s)) := by
  obtain ⟨negative, ds, hsplit, hne, hds, hlength, hvalue⟩ := splitSign_of_isNumeral hs
  have hall : ds.takeWhile (fun c => (digitValue? 10 c).isSome) = ds :=
    List.takeWhile_eq_self_iff.mpr fun d hd => by rw [digitValue?_of_isDigit (hds d hd)]; rfl
  simp only [readInteger, hsplit, withoutBaseMark_ten, hall, readDigits?_of_isDigit hne hds, hvalue,
    hlength, decide_true, Bool.true_and, decide_eq_true_eq, ← not_le, ite_not]

def ShortIntegers (ds : List Directive) : Prop :=
  ∀ d ∈ ds, ∀ a ∈ d.arguments, ∀ s, a.2 = .int s → digitCount s ≤ maxDecimalDigits

def NumericArguments (ds : List Directive) : Prop := ∀ d ∈ ds, ∀ a ∈ d.arguments, a.2.Numeric

theorem numericArguments_of_named {ds : List Directive} (h : ∀ d ∈ ds, d.Named) :
    NumericArguments ds := fun d hd => (h d hd).values

theorem literal?_ok {v : Value} (hv : v.Numeric)
    (hshort : ∀ s, v = .int s → digitCount s ≤ maxDecimalDigits) : ∃ l, literal? v = .ok l := by
  cases v with
  | int s =>
    have hread := readInteger_of_isNumeral (hv s rfl)
    rw [if_pos (hshort s rfl)] at hread
    exact ⟨some (.int (numeralValue s)), by simp only [literal?, hread]⟩
  | string s => exact ⟨_, rfl⟩
  | boolean b => exact ⟨_, rfl⟩
  | _ => exact ⟨none, rfl⟩

theorem literalArguments_ok {args : List (String × Value)} (hargs : ∀ a ∈ args, a.2.Numeric)
    (hshort : ∀ a ∈ args, ∀ s, a.2 = .int s → digitCount s ≤ maxDecimalDigits) :
    ∃ ls, literalArguments args = .ok ls := by
  induction args with
  | nil => exact ⟨[], rfl⟩
  | cons a rest ih =>
    obtain ⟨l, hl⟩ := literal?_ok (hargs a List.mem_cons_self) (hshort a List.mem_cons_self)
    obtain ⟨ls, hls⟩ := ih (fun b hb => hargs b (List.mem_cons_of_mem a hb))
      (fun b hb => hshort b (List.mem_cons_of_mem a hb))
    simp only [literalArguments, hl, hls]
    cases l with
    | none => exact ⟨ls, rfl⟩
    | some l => exact ⟨(a.1, l) :: ls, rfl⟩

theorem constraints_ok {ds : List Directive} (hnumeric : NumericArguments ds)
    (hshort : ShortIntegers ds) : ∃ as, (constraints ds).outcome = .ok as := by
  induction ds with
  | nil => exact ⟨[], rfl⟩
  | cons d rest ih =>
    obtain ⟨as, has⟩ := ih (fun e he => hnumeric e (List.mem_cons_of_mem d he))
      (fun e he => hshort e (List.mem_cons_of_mem d he))
    rw [constraints]
    split
    · obtain ⟨ls, hls⟩ := literalArguments_ok (hnumeric d List.mem_cons_self)
        (hshort d List.mem_cons_self)
      simp only [Traced.outcome_bind, Traced.outcome_silently, constraint, hls, has]
      exact ⟨_, rfl⟩
    · simp only [Traced.outcome_bind, Traced.outcome_note, has]
      exact ⟨as, rfl⟩

theorem inputAnnotations_eq_ok_iff {type : TypeExpr} {ds : List Directive}
    {out : List AnnotationUse} :
    (inputAnnotations type ds).outcome = .ok out ↔
      ∃ as, (constraints ds).outcome = .ok as ∧
        out = if type.isNonNull then notNull :: as else as := by
  simp only [inputAnnotations, Traced.outcome_bind, Traced.outcome_pure, Outcome.bind_eq_ok_iff,
    Except.ok.injEq, @eq_comm _ out]

theorem inputAnnotations_eq_error_iff {type : TypeExpr} {ds : List Directive} {f : Fault} :
    (inputAnnotations type ds).outcome = .error f ↔ (constraints ds).outcome = .error f := by
  simp only [inputAnnotations, Traced.outcome_bind, Traced.outcome_pure, Outcome.bind_eq_error_iff,
    reduceCtorEq, and_false, exists_false, or_false]

/-- Short integers keep no annotation from being built. -/
theorem inputAnnotations_ok (type : TypeExpr) {ds : List Directive} (hds : ∀ d ∈ ds, d.Named)
    (hshort : ShortIntegers ds) : ∃ as, (inputAnnotations type ds).outcome = .ok as := by
  obtain ⟨as, has⟩ := constraints_ok (numericArguments_of_named hds) hshort
  exact ⟨_, inputAnnotations_eq_ok_iff.mpr ⟨as, has, rfl⟩⟩

end SchemaToJava.Emission
