import SchemaToJava.Java.Name
import Mathlib.Data.List.Basic

/-!
Readers of texts. A reader takes what it reads from the front and answers what that means. `Reads`
says what a reader makes of a text, whatever comes after it as long as that may follow.
-/

namespace SchemaToJava.Java

/-- A reader takes something from the front of a text, or refuses it. -/
abbrev Reader := StateT (List Char) Option

namespace Reader

def expect (s : String) : Reader Unit := fun cs =>
  if s.toList.isPrefixOf cs then some ((), cs.drop s.toList.length) else none

def takeWhile (p : Char → Bool) : Reader String := fun cs =>
  if (cs.takeWhile p).isEmpty then none
  else some (String.ofList (cs.takeWhile p), cs.dropWhile p)

/-- Takes items as long as there are any, at most `room` of them. -/
def upTo {α : Type} (item : Reader α) : (room : Nat) → Reader (List α)
  | 0 => pure []
  | room + 1 => (do
      let a ← item
      let as ← upTo item room
      return a :: as) <|> pure []

def many {α : Type} (item : Reader α) : Reader (List α) := fun cs => upTo item cs.length cs

def someSeparated {α : Type} (separator : String) (item : Reader α) : Reader (List α) := do
  let a ← item
  let as ← many (do
    expect separator
    item)
  return a :: as

def separated {α : Type} (separator : String) (item : Reader α) : Reader (List α) :=
  someSeparated separator item <|> pure []

end Reader

/-- The reader takes the text `s` for `a` whenever `next` holds of what comes after it. -/
def Reads {α : Type} (r : Reader α) (s : String) (a : α) (next : List Char → Prop) : Prop :=
  ∀ rest, next rest → r (s.toList ++ rest) = some (a, rest)

def anything (_ : List Char) : Prop := True

def Stops (p : Char → Bool) (rest : List Char) : Prop := ∀ c, rest.head? = some c → p c = false

theorem stops_cons {p : Char → Bool} {c : Char} (h : p c = false) (rest : List Char) :
    Stops p (c :: rest) := by
  intro d hd
  rw [List.head?_cons, Option.some.injEq] at hd
  exact hd ▸ h

/-- The text starts with a character that does not satisfy `p`. -/
def Breaks (p : Char → Bool) (s : String) : Prop := ∃ c cs, s.toList = c :: cs ∧ p c = false

theorem Breaks.append {p : Char → Bool} {s : String} (h : Breaks p s) (t : String) :
    Breaks p (s ++ t) := by
  obtain ⟨c, cs, hs, hc⟩ := h
  exact ⟨c, cs ++ t.toList, by rw [String.toList_append, hs, List.cons_append], hc⟩

theorem Breaks.stops {p : Char → Bool} {s : String} (h : Breaks p s) (rest : List Char) :
    Stops p (s.toList ++ rest) := by
  obtain ⟨c, cs, hs, hc⟩ := h
  rw [hs]
  exact stops_cons hc _

theorem expect_eq_none {s : String} {cs : List Char} (h : s.toList.isPrefixOf cs = false) :
    Reader.expect s cs = none := by
  unfold Reader.expect
  rw [h]
  rfl

theorem expect_eq_none_of_head {s : String} {c d : Char} {ds : List Char} (hs : s.toList = d :: ds)
    (h : c ≠ d) (cs : List Char) : Reader.expect s (c :: cs) = none := by
  refine expect_eq_none ?_
  simp [hs, List.isPrefixOf, Ne.symm h]

theorem bind_eq_none {α β : Type} {r : Reader α} {cs : List Char} (h : r cs = none)
    (f : α → Reader β) : (r >>= f) cs = none := by
  change (r cs).bind _ = none
  rw [h]
  rfl

theorem bind_of_eq_some {α β : Type} {r : Reader α} {cs rest : List Char} {a : α}
    (h : r cs = some (a, rest)) (f : α → Reader β) : (r >>= f) cs = f a rest := by
  change (r cs).bind _ = _
  rw [h]
  rfl

namespace Reads

variable {α β : Type} {r : Reader α} {f : α → Reader β} {s t : String} {a : α} {b : β}
  {next last : List Char → Prop}

theorem mono (h : Reads r s a next) (hnext : ∀ rest, last rest → next rest) : Reads r s a last :=
  fun rest hrest => h rest (hnext rest hrest)

theorem pure (a : α) : Reads (pure a) "" a next := by
  intro rest _
  rfl

theorem bind (hr : Reads r s a next) (hf : Reads (f a) t b last)
    (hnext : ∀ rest, last rest → next (t.toList ++ rest)) : Reads (r >>= f) (s ++ t) b last := by
  intro rest hrest
  change (r ((s ++ t).toList ++ rest)).bind _ = _
  rw [String.toList_append, List.append_assoc, hr _ (hnext rest hrest)]
  exact hf rest hrest

theorem andThen (hr : Reads r s a anything) (hf : Reads (f a) t b last) :
    Reads (r >>= f) (s ++ t) b last :=
  hr.bind hf fun _ _ => trivial

/-- A reader that goes on as long as `p` holds, before a text that breaks it off. -/
theorem andBreak {p : Char → Bool} (hr : Reads r s a (Stops p)) (hf : Reads (f a) t b last)
    (ht : Breaks p t) : Reads (r >>= f) (s ++ t) b last :=
  hr.bind hf fun rest _ => ht.stops rest

theorem bind_eq_pure (hr : Reads r s a next) (hf : f a = Pure.pure b) :
    Reads (r >>= f) s b next := by
  intro rest hrest
  change (r (s.toList ++ rest)).bind _ = _
  rw [hr rest hrest]
  exact congrFun hf rest

theorem bind_pure (hr : Reads r s a next) (g : α → β) :
    Reads (r >>= fun a => Pure.pure (g a)) s (g a) next :=
  hr.bind_eq_pure rfl

theorem expect (s : String) : Reads (Reader.expect s) s () next := by
  intro rest _
  have hprefix : s.toList.isPrefixOf (s.toList ++ rest) = true := by simp
  unfold Reader.expect
  rw [if_pos hprefix, List.drop_left]

theorem takeWhile {p : Char → Bool} (hs : s ≠ "") (hp : ∀ c ∈ s.toList, p c = true) :
    Reads (Reader.takeWhile p) s s (Stops p) := by
  intro rest hrest
  have hstop : rest.takeWhile p = [] ∧ rest.dropWhile p = rest := by
    cases rest with
    | nil => exact ⟨rfl, rfl⟩
    | cons c cs =>
      have hc := hrest c rfl
      simp [hc]
  have htake : (s.toList ++ rest).takeWhile p = s.toList := by
    rw [List.takeWhile_append_of_pos hp, hstop.1, List.append_nil]
  have hdrop : (s.toList ++ rest).dropWhile p = rest := by
    rw [List.dropWhile_append_of_pos hp, hstop.2]
  have hne : s.toList.isEmpty = false := by simpa using hs
  unfold Reader.takeWhile
  rw [htake, hdrop, hne, String.ofList_toList]
  rfl

theorem orElse_left (h : Reads r s a next) (q : Reader α) : Reads (r <|> q) s a next := by
  intro rest hrest
  change (r (s.toList ++ rest) <|> q (s.toList ++ rest)) = _
  rw [h rest hrest]
  rfl

theorem orElse_right {q : Reader α} (h : Reads q s a next)
    (hr : ∀ rest, next rest → r (s.toList ++ rest) = none) : Reads (r <|> q) s a next := by
  intro rest hrest
  change (r (s.toList ++ rest) <|> q (s.toList ++ rest)) = _
  rw [hr rest hrest]
  exact h rest hrest

end Reads

section Many

variable {α : Type} {item : Reader α} {text : α → String} {next : List Char → Prop} {as : List α}

theorem upTo_of_none {rest : List Char} (h : item rest = none) (room : Nat) :
    Reader.upTo item room rest = some ([], rest) := by
  cases room with
  | zero => rfl
  | succ room =>
    unfold Reader.upTo
    change ((item rest).bind _ <|> some ([], rest)) = _
    rw [h]
    rfl

theorem many_of_none {rest : List Char} (h : item rest = none) :
    Reader.many item rest = some ([], rest) :=
  upTo_of_none h rest.length

theorem upTo_succ {cs rest : List Char} {b : α} (h : item cs = some (b, rest)) {room : Nat}
    {bs : List α} {left : List Char} (hrest : Reader.upTo item room rest = some (bs, left)) :
    Reader.upTo item (room + 1) cs = some (b :: bs, left) := by
  rw [Reader.upTo]
  change (((item cs).bind fun x => (Reader.upTo item room x.2).bind fun y =>
    some (x.1 :: y.1, y.2)) <|> some ([], cs)) = _
  rw [h, Option.bind_some, hrest]
  rfl

theorem upTo_eq (hitem : ∀ a ∈ as, Reads item (text a) a next)
    (hnext : ∀ a ∈ as, ∀ rest, next ((text a).toList ++ rest)) {rest : List Char}
    (hrest : next rest) (hstop : item rest = none) {room : Nat} (hroom : as.length ≤ room) :
    Reader.upTo item room ((String.join (as.map text)).toList ++ rest) =
      some (as, rest) := by
  induction as generalizing room with
  | nil => exact upTo_of_none hstop room
  | cons a as ih =>
    obtain ⟨room, rfl⟩ : ∃ k, room = k + 1 := ⟨room - 1, by simp at hroom; omega⟩
    have hfollow : next ((String.join (as.map text)).toList ++ rest) := by
      cases as with
      | nil => exact hrest
      | cons b bs =>
        rw [List.map_cons, String.join_cons, String.toList_append, List.append_assoc]
        exact hnext b (by simp) _
    have htail := ih (fun b hb => hitem b (List.mem_cons_of_mem _ hb))
      (fun b hb => hnext b (List.mem_cons_of_mem _ hb)) (show as.length ≤ room by simpa using hroom)
    rw [List.map_cons, String.join_cons, String.toList_append, List.append_assoc]
    exact upTo_succ (hitem a (by simp) _ hfollow) htail

theorem length_le_join (hne : ∀ a ∈ as, text a ≠ "") :
    as.length ≤ (String.join (as.map text)).toList.length := by
  induction as with
  | nil => simp
  | cons a as ih =>
    have ha : 0 < (text a).toList.length := by
      rw [List.length_pos_iff]
      simpa using hne a (by simp)
    have htail := ih fun b hb => hne b (List.mem_cons_of_mem _ hb)
    rw [List.map_cons, String.join_cons, String.toList_append, List.length_append,
      List.length_cons]
    omega

/-- All items are taken if each may be followed by the next and the last by what comes after, and
if what comes after is no item. -/
theorem Reads.many (hitem : ∀ a ∈ as, Reads item (text a) a next)
    (hnext : ∀ a ∈ as, ∀ rest, next ((text a).toList ++ rest)) (hne : ∀ a ∈ as, text a ≠ "") :
    Reads (Reader.many item) (String.join (as.map text)) as
      (fun rest => next rest ∧ item rest = none) := by
  intro rest hrest
  unfold Reader.many
  have hlength := length_le_join hne
  refine upTo_eq hitem hnext hrest.1 hrest.2 ?_
  rw [List.length_append]
  omega

theorem intercalate_cons (separator s : String) (ss : List String) :
    separator.intercalate (s :: ss) = s ++ String.join (ss.map (separator ++ ·)) := by
  induction ss generalizing s with
  | nil => simp
  | cons t ss ih =>
    rw [String.intercalate_cons_cons, ih, List.map_cons, String.join_cons]
    simp only [String.append_assoc]

theorem Reads.someSeparated (separator : String) (hne : as ≠ []) (hsep : separator ≠ "")
    (hitem : ∀ a ∈ as, Reads item (text a) a next)
    (hnext : ∀ rest, next (separator.toList ++ rest)) :
    Reads (Reader.someSeparated separator item) (separator.intercalate (as.map text)) as
      (fun rest => next rest ∧ separator.toList.isPrefixOf rest = false) := by
  obtain ⟨a, as, rfl⟩ := List.exists_cons_of_ne_nil hne
  have hfurther : ∀ b ∈ as, Reads (do Reader.expect separator; item) (separator ++ text b) b next :=
    fun b hb => (Reads.expect separator).andThen (hitem b (List.mem_cons_of_mem _ hb))
  have hbefore : ∀ (b : α) rest, next ((separator ++ text b).toList ++ rest) := by
    intro b rest
    rw [String.toList_append, List.append_assoc]
    exact hnext _
  have hnonempty : ∀ b ∈ as, separator ++ text b ≠ "" := by
    intro b _ h
    exact hsep (String.append_eq_empty_iff.mp h).1
  have hmany := Reads.many hfurther (fun b _ => hbefore b) hnonempty
  unfold Reader.someSeparated
  rw [List.map_cons, intercalate_cons, List.map_map]
  refine (hitem a (by simp)).bind (hmany.bind_pure fun bs => a :: bs) ?_ |>.mono ?_
  · -- After the first item comes a separator or, if it is the only one, what comes after all.
    rintro rest ⟨hrest, -⟩
    cases as with
    | nil => exact hrest
    | cons b bs =>
      rw [List.map_cons, String.join_cons, String.toList_append, List.append_assoc]
      exact hbefore b _
  · rintro rest ⟨hrest, hstop⟩
    exact ⟨hrest, bind_eq_none (expect_eq_none hstop) _⟩

theorem Reads.separated (separator : String) (hsep : separator ≠ "")
    (hitem : ∀ a ∈ as, Reads item (text a) a next)
    (hnext : ∀ rest, next (separator.toList ++ rest)) :
    Reads (Reader.separated separator item) (separator.intercalate (as.map text)) as
      (fun rest => next rest ∧ separator.toList.isPrefixOf rest = false ∧ item rest = none) := by
  unfold Reader.separated
  by_cases hne : as = []
  · subst hne
    refine Reads.orElse_right (Reads.pure []) ?_
    rintro rest ⟨-, -, hstop⟩
    exact bind_eq_none hstop _
  · have hsome := Reads.someSeparated separator hne hsep hitem hnext
    exact (hsome.mono fun rest h => ⟨h.1, h.2.1⟩).orElse_left _

end Many

end SchemaToJava.Java
