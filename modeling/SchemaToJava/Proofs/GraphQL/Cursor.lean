import Mathlib.Data.List.TakeWhile
import SchemaToJava.GraphQL.Cursor
import SchemaToJava.Proofs.Outcome

/-!
Where names and numerals come from. Every name token is a name and every token of an integer is a
numeral, so whatever a rule makes of a text has only names where the grammar asks for them.
-/

namespace SchemaToJava.GraphQL

structure IsName (s : String) : Prop where
  nonempty : s ≠ ""
  start : ∀ c ∈ s.toList.head?, isNameStart c = true
  parts : ∀ c ∈ s.toList, isNameContinue c = true

structure IsNumeral (s : String) : Prop where
  written : ∃ ds, ds ≠ [] ∧ (∀ d ∈ ds, isDigit d = true) ∧ (s.toList = ds ∨ s.toList = '-' :: ds)

structure Lexeme.Named (l : Lexeme) : Prop where
  name : ∀ s, l = .name s → IsName s
  numeral : ∀ s, l = .int s → IsNumeral s

/-- All name tokens of the stream are names, and all tokens of integers are numerals. -/
def TokenStream.Named : TokenStream → Prop
  | .eof _ => True
  | .fault _ => True
  | .cons t rest => t.lexeme.Named ∧ rest.Named

structure Cursor.Named (c : Cursor) : Prop where
  token : c.token.lexeme.Named
  ahead : c.ahead.Named

theorem digits_of_wholePart {offset w : Nat} {cs : List Char}
    (h : Lexer.wholePart offset cs = .ok w) : cs.take w ≠ [] ∧ ∀ d ∈ cs.take w, isDigit d = true := by
  have hzero : ∀ rest : List Char, ('0' :: rest).take 1 ≠ [] ∧
      ∀ d ∈ ('0' :: rest).take 1, isDigit d = true := by
    intro rest
    simp only [List.take_succ_cons, List.take_zero, List.mem_singleton, forall_eq]
    exact ⟨List.cons_ne_nil _ _, by decide⟩
  unfold Lexer.wholePart at h
  split at h
  · split at h
    · split at h
      · cases h
      · cases h
        exact hzero _
    · cases h
      exact hzero _
  · unfold Lexer.digits at h
    split at h
    · cases h
    · rename_i hpositive
      cases h
      have htake : cs.take (cs.takeWhile isDigit).length = cs.takeWhile isDigit :=
        (List.prefix_iff_eq_take.mp (List.takeWhile_prefix isDigit)).symm
      rw [htake]
      exact ⟨fun hnil => hpositive (List.length_eq_zero_iff.mpr hnil),
        fun d hd => List.mem_takeWhile_imp hd⟩

theorem isNumeral_of_wholePart {sign w : Nat} {cs : List Char}
    (hsign : sign = if cs.head? = some '-' then 1 else 0)
    (h : Lexer.wholePart sign (cs.drop sign) = .ok w) :
    IsNumeral (String.ofList (cs.take (sign + w))) := by
  obtain ⟨hne, hdigits⟩ := digits_of_wholePart h
  refine ⟨_, hne, hdigits, ?_⟩
  rw [String.toList_ofList, List.take_add, hsign]
  split
  · rename_i hhead
    obtain ⟨rest, rfl⟩ := List.head?_eq_some_iff.mp hhead
    exact .inr rfl
  · exact .inl rfl

theorem named_number {cs : List Char} {l : Lexeme} {size : Nat}
    (h : Lexer.number cs = .ok (l, size)) : l.Named := by
  unfold Lexer.number at h
  obtain ⟨w, hwhole, h⟩ := Outcome.bind_eq_ok_iff.mp h
  obtain ⟨_, -, h⟩ := Outcome.bind_eq_ok_iff.mp h
  obtain ⟨_, -, h⟩ := Outcome.bind_eq_ok_iff.mp h
  have hnumeral := isNumeral_of_wholePart rfl hwhole
  have hanswer : ∀ (n whole : Nat), IsNumeral (String.ofList (cs.take whole)) →
      (Except.ok (if n = whole then Lexeme.int (String.ofList (cs.take n))
        else .float (String.ofList (cs.take n)), n) : Except Lexer.Flaw _) = .ok (l, size) →
      l.Named := by
    intro n whole hw heq
    have hl := congrArg Prod.fst (Except.ok.inj heq)
    simp only at hl
    split at hl
    · rename_i hn
      subst hl hn
      exact ⟨fun s hs => (by cases hs), fun s hs => (by cases hs; exact hw)⟩
    · subst hl
      exact ⟨fun s hs => (by cases hs), fun s hs => (by cases hs)⟩
  simp only at h
  split at h
  · split at h
    · cases h
    · exact hanswer _ _ hnumeral h
  · exact hanswer _ _ hnumeral h

theorem named_stringPiece {rest : List Char} {l : Lexeme} {size : Nat}
    (h : Lexer.stringPiece rest = .ok (.token l size)) : l.Named := by
  have htext : (∃ s, l = .string s) ∨ ∃ s, l = .blockString s := by
    unfold Lexer.stringPiece at h
    split at h
    · obtain ⟨_, -, h⟩ := Outcome.bind_eq_ok_iff.mp h
      cases h
      exact .inr ⟨_, rfl⟩
    · obtain ⟨_, -, h⟩ := Outcome.bind_eq_ok_iff.mp h
      cases h
      exact .inl ⟨_, rfl⟩
  rcases htext with ⟨_, rfl⟩ | ⟨_, rfl⟩ <;>
    exact ⟨fun s hs => (by cases hs), fun s hs => (by cases hs)⟩

theorem named_punct (p : Punctuator) : (Lexeme.punct p).Named :=
  ⟨fun _ hs => (by cases hs), fun _ hs => (by cases hs)⟩

theorem named_point {rest : List Char} {l : Lexeme} {size : Nat}
    (h : Lexer.point rest = .ok (.token l size)) : l.Named := by
  unfold Lexer.point at h
  split at h
  · cases h
    exact named_punct _
  · cases h
  · split at h <;> cases h

theorem isName_of_start {c : Char} (hc : isNameStart c = true) (rest : List Char) :
    IsName (String.ofList (c :: rest.takeWhile isNameContinue)) := by
  constructor
  · intro h
    have hnil := congrArg String.toList h
    rw [String.toList_ofList] at hnil
    cases hnil
  · intro d hd
    rw [String.toList_ofList, List.head?_cons, Option.mem_some_iff] at hd
    exact hd ▸ hc
  · intro d hd
    rw [String.toList_ofList] at hd
    rcases List.mem_cons.mp hd with rfl | hd
    · simp [isNameContinue, hc]
    · exact List.mem_takeWhile_imp hd

theorem named_piece {c : Char} {rest : List Char} {l : Lexeme} {size : Nat}
    (h : Lexer.piece c rest = .ok (.token l size)) : l.Named := by
  unfold Lexer.piece at h
  split at h
  · cases h
  split at h
  · cases h
  split at h
  · exact named_stringPiece h
  split at h
  · cases h
    exact named_punct _
  split at h
  · obtain ⟨⟨l', size'⟩, hnumber, h⟩ := Outcome.bind_eq_ok_iff.mp h
    cases h
    exact named_number hnumber
  split at h
  · rename_i hstart
    cases h
    exact ⟨fun s hs => (by cases hs; exact isName_of_start hstart rest), fun s hs => (by cases hs)⟩
  split at h
  · exact named_point h
  · split at h <;> cases h

theorem TokenStream.named_scan (p : Position) (skip : Nat) (cs : List Char) :
    (scan p skip cs).Named := by
  induction cs generalizing p skip with
  | nil => exact trivial
  | cons c rest ih =>
    cases skip with
    | succ k => exact ih _ _
    | zero =>
      rw [scan]
      split
      · exact trivial
      · exact ih _ _
      · rename_i hpiece
        exact ⟨named_piece hpiece, ih _ _⟩

theorem TokenStream.named_ofChars (cs : List Char) : (ofChars cs).Named := named_scan .first 0 cs

theorem Cursor.named_ofStream {ts : TokenStream} (h : ts.Named) {c : Cursor}
    (hc : Cursor.ofStream ts = .ok c) : c.Named := by
  cases ts with
  | eof p =>
    cases hc
    exact ⟨⟨fun s hs => (by cases hs), fun s hs => (by cases hs)⟩, trivial⟩
  | fault e => cases hc
  | cons t rest =>
    cases hc
    exact ⟨h.1, h.2⟩

/-- What the rule answers satisfies `P`, and it keeps the tokens what they are. -/
def Rule.Yields {α : Type} (r : Rule α) (P : α → Prop) : Prop :=
  ∀ c a d, c.Named → r c = .ok (a, d) → P a ∧ d.Named

/-- Nothing is said about what the rule answers. -/
abbrev Rule.Keeps {α : Type} (r : Rule α) : Prop := r.Yields fun _ => True

namespace Rule

variable {α β : Type} {P : α → Prop} {Q : β → Prop} {r : Rule α}

namespace Yields

theorem pure {a : α} (h : P a) : (pure a : Rule α).Yields P := by
  intro c a' d hc heq
  cases heq
  exact ⟨h, hc⟩

theorem bind (hr : r.Yields P) {f : α → Rule β} (hf : ∀ a, P a → (f a).Yields Q) :
    (r >>= f).Yields Q := by
  intro c b e hc h
  obtain ⟨⟨a, d⟩, hrun, h⟩ := Outcome.bind_eq_ok_iff.mp h
  obtain ⟨ha, hd⟩ := hr c a d hc hrun
  exact hf a ha d b e hd h

theorem mono (hr : r.Yields P) {P' : α → Prop} (h : ∀ a, P a → P' a) : r.Yields P' := by
  intro c a d hc heq
  obtain ⟨ha, hd⟩ := hr c a d hc heq
  exact ⟨h a ha, hd⟩

theorem map (hr : r.Yields P) {f : α → β} (hf : ∀ a, P a → Q (f a)) : (f <$> r).Yields Q := by
  rw [map_eq_pure_bind]
  exact hr.bind fun a ha => .pure (hf a ha)

theorem keeps (hr : r.Yields P) : r.Keeps := hr.mono fun _ _ => trivial

theorem ite {q : Rule α} {b : Prop} [Decidable b] (hr : r.Yields P) (hq : q.Yields P) :
    (if b then r else q).Yields P := by
  split
  · exact hr
  · exact hq

end Yields

theorem yields_get : (get : Rule Cursor).Yields Cursor.Named := by
  intro c a d hc heq
  cases heq
  exact ⟨hc, hc⟩

theorem yields_current : current.Yields fun t => t.lexeme.Named :=
  yields_get.bind fun _ hc => .pure hc.token

theorem yields_advance : advance.Keeps := by
  intro c a d hc heq
  obtain ⟨e, hstream, heq⟩ := Outcome.bind_eq_ok_iff.mp heq
  cases heq
  exact ⟨trivial, Cursor.named_ofStream hc.ahead hstream⟩

theorem yields_lookahead : lookahead.Keeps := by
  intro c a d hc heq
  obtain ⟨e, -, heq⟩ := Outcome.bind_eq_ok_iff.mp heq
  cases heq
  exact ⟨trivial, hc⟩

theorem yields_fail (problem : Problem) (position : Position) :
    (fail problem position : Rule α).Yields P := by
  intro c a d _ heq
  cases heq

theorem yields_unexpected (t : Token) : (unexpected t : Rule α).Yields P := yields_fail _ _

theorem yields_unexpectedHere : (unexpectedHere : Rule α).Yields P :=
  yields_current.bind fun t _ => yields_unexpected t

theorem yields_expected (wanted : Wanted) : (expected wanted : Rule α).Yields P :=
  yields_current.bind fun _ _ => yields_fail _ _

theorem yields_peek (l : Lexeme) : (peek l).Keeps := yields_current.bind fun _ _ => .pure trivial

theorem yields_skip? (l : Lexeme) : (skip? l).Keeps :=
  (yields_peek l).bind fun _ _ =>
    .ite (yields_advance.bind fun _ _ => .pure trivial) (.pure trivial)

theorem yields_punct (p : Punctuator) : (punct p).Keeps :=
  (yields_skip? _).bind fun _ _ => .ite (.pure trivial) (yields_expected _)

theorem yields_keyword (word : String) : (keyword word).Keeps :=
  (yields_skip? _).bind fun _ _ => .ite (.pure trivial) (yields_expected _)

theorem yields_name : name.Yields IsName := by
  refine yields_current.bind fun t ht => ?_
  split
  · rename_i s hs
    exact yields_advance.bind fun _ _ => .pure (ht.name s hs)
  · exact yields_expected _

section Repetition

variable (hr : r.Yields P)

include hr

theorem yields_cons {rest : Rule (List α)} (hrest : rest.Yields fun as => ∀ a ∈ as, P a) :
    (do
      let x ← r
      return x :: (← rest)).Yields fun as => ∀ a ∈ as, P a :=
  hr.bind fun _ ha => hrest.bind fun _ has => .pure (List.forall_mem_cons.mpr ⟨ha, has⟩)

theorem yields_itemsUntil (close : Lexeme) (fuel : Nat) :
    (itemsUntil close r fuel).Yields fun as => ∀ a ∈ as, P a := by
  induction fuel with
  | zero => exact yields_unexpectedHere
  | succ fuel ih =>
    exact (yields_skip? close).bind fun _ _ => .ite (.pure (by simp)) (yields_cons hr ih)

theorem yields_manyUntil (close : Lexeme) : (manyUntil close r).Yields fun as => ∀ a ∈ as, P a :=
  yields_get.bind fun c _ => yields_itemsUntil hr close c.size

theorem yields_someUntil (close : Lexeme) :
    (someUntil close r).Yields fun as => ∀ a ∈ as, P a :=
  yields_cons hr (yields_manyUntil hr close)

theorem yields_surrounded (opening closing : Punctuator) :
    (surrounded opening closing r).Yields fun as => ∀ a ∈ as, P a :=
  (yields_punct opening).bind fun _ _ => yields_manyUntil hr _

theorem yields_optionalGroup (opening closing : Punctuator) :
    (optionalGroup opening closing r).Yields fun as => ∀ a ∈ as, P a :=
  (yields_skip? _).bind fun _ _ => .ite (yields_someUntil hr _) (.pure (by simp))

theorem yields_group (opening closing : Punctuator) :
    (group opening closing r).Yields fun as => ∀ a ∈ as, P a :=
  (yields_punct opening).bind fun _ _ => yields_someUntil hr _

theorem yields_separatedRest (separator : Punctuator) (fuel : Nat) :
    (separatedRest separator r fuel).Yields fun as => ∀ a ∈ as, P a := by
  induction fuel with
  | zero => exact yields_unexpectedHere
  | succ fuel ih =>
    exact (yields_skip? _).bind fun _ _ => .ite (yields_cons hr ih) (.pure (by simp))

theorem yields_separated (separator : Punctuator) :
    (separated separator r).Yields fun as => ∀ a ∈ as, P a :=
  (yields_skip? _).bind fun _ _ => hr.bind fun _ ha => yields_get.bind fun c _ =>
    (yields_separatedRest hr separator c.size).bind fun _ has =>
      .pure (List.forall_mem_cons.mpr ⟨ha, has⟩)

theorem yields_whileAt (start : Punctuator) (fuel : Nat) :
    (whileAt start r fuel).Yields fun as => ∀ a ∈ as, P a := by
  induction fuel with
  | zero => exact yields_unexpectedHere
  | succ fuel ih =>
    exact (yields_peek _).bind fun _ _ => .ite (yields_cons hr ih) (.pure (by simp))

theorem yields_startingWith (start : Punctuator) :
    (startingWith start r).Yields fun as => ∀ a ∈ as, P a :=
  yields_get.bind fun c _ => yields_whileAt hr start c.size

end Repetition

end Rule

end SchemaToJava.GraphQL
