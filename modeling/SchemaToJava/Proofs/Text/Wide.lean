import Mathlib.Data.List.DropRight
import SchemaToJava.Text.Wide

/-!
Trimming and the order of texts. Trimming leaves the part between the blanks around a text, which
has no blank at its own ends; there is only one such part, so trimming is told by it. Of two
different texts exactly one comes first.
-/

namespace SchemaToJava.Text.Wide

structure Trimmed (t : Wide) : Prop where
  first : ∀ p ∈ t.head?, p.isBlank = false
  last : ∀ p ∈ t.getLast?, p.isBlank = false

/-- The one text is the other without the blanks around it. -/
structure StripsTo (t u : Wide) : Prop where
  around : ∃ a b, isBlank a = true ∧ isBlank b = true ∧ t = a ++ u ++ b
  trimmed : Trimmed u

variable {t u a b : Wide}

theorem trim_eq_rdropWhile (t : Wide) :
    trim t = (t.dropWhile CodePoint.isBlank).rdropWhile CodePoint.isBlank := rfl

theorem forall_blank (h : isBlank t = true) : ∀ p ∈ t, p.isBlank = true := List.all_eq_true.mp h

theorem trim_append_blanks (ha : isBlank a = true) (hb : isBlank b = true) (t : Wide) :
    trim (a ++ t ++ b) = trim t := by
  rw [trim_eq_rdropWhile, trim_eq_rdropWhile, List.append_assoc,
    List.dropWhile_append_of_pos (forall_blank ha), List.dropWhile_append]
  split
  · rename_i hempty
    rw [List.dropWhile_eq_nil_iff.mpr (forall_blank hb), List.isEmpty_iff.mp hempty]
  · have hreverse : ∀ p ∈ b.reverse, p.isBlank = true := fun p hp =>
      forall_blank hb p (List.mem_reverse.mp hp)
    rw [List.rdropWhile, List.reverse_append, List.dropWhile_append_of_pos hreverse,
      List.rdropWhile]

theorem Trimmed.trim_eq (h : Trimmed t) : trim t = t := by
  have hfirst : t.dropWhile CodePoint.isBlank = t := by
    cases t with
    | nil => rfl
    | cons p rest => exact List.dropWhile_cons_of_neg (by simp [h.first p rfl])
  rw [trim_eq_rdropWhile, hfirst, List.rdropWhile_eq_self_iff]
  intro hne
  simp [h.last _ (List.getLast?_eq_getLast_of_ne_nil hne)]

theorem trimmed_trim (t : Wide) : Trimmed (trim t) where
  first p hp := by
    obtain ⟨rest, hrest⟩ := List.rdropWhile_prefix CodePoint.isBlank (t.dropWhile CodePoint.isBlank)
    have hhead : (t.dropWhile CodePoint.isBlank).head? = some p := by
      rw [← hrest, List.head?_append, ← trim_eq_rdropWhile, hp]
      rfl
    have hnot := List.head?_dropWhile_not CodePoint.isBlank t
    rwa [hhead] at hnot
  last p hp := by
    obtain ⟨hne, rfl⟩ := List.mem_getLast?_eq_getLast hp
    exact Bool.eq_false_iff.mpr
      (List.rdropWhile_last_not CodePoint.isBlank (t.dropWhile CodePoint.isBlank) hne)

theorem stripsTo_trim (t : Wide) : StripsTo t (trim t) where
  around := by
    refine ⟨t.takeWhile CodePoint.isBlank,
      (t.dropWhile CodePoint.isBlank).rtakeWhile CodePoint.isBlank, List.all_takeWhile,
      List.all_eq_true.mpr fun p hp => List.mem_rtakeWhile_imp hp, ?_⟩
    rw [trim_eq_rdropWhile, List.append_assoc, List.rdropWhile_append_rtakeWhile,
      List.takeWhile_append_dropWhile]
  trimmed := trimmed_trim t

/-- Trimming is told by what it leaves. -/
theorem stripsTo_iff : StripsTo t u ↔ trim t = u := by
  constructor
  · rintro ⟨⟨a, b, ha, hb, rfl⟩, hu⟩
    rw [trim_append_blanks ha hb, hu.trim_eq]
  · rintro rfl
    exact stripsTo_trim t

theorem trim_eq_nil_iff : trim t = [] ↔ isBlank t = true := by
  rw [← stripsTo_iff, isBlank, List.all_eq_true]
  constructor
  · rintro ⟨⟨a, b, ha, hb, rfl⟩, -⟩ p hp
    rw [List.append_nil, List.mem_append] at hp
    exact hp.elim (forall_blank ha p) (forall_blank hb p)
  · intro h
    exact ⟨⟨t, [], List.all_eq_true.mpr h, rfl, by simp⟩, by simp, by simp⟩

theorem Trimmed.isBlank_eq (h : Trimmed t) (hne : t ≠ []) : isBlank t = false := by
  rw [← Bool.not_eq_true, ← trim_eq_nil_iff, h.trim_eq]
  exact hne

theorem StripsTo.isBlank_eq (h : StripsTo t u) : isBlank u = isBlank t := by
  rw [Bool.eq_iff_iff, ← trim_eq_nil_iff, ← trim_eq_nil_iff, h.trimmed.trim_eq, stripsTo_iff.mp h]

theorem le_cons_iff {p q : CodePoint} {s t : Wide} :
    le (p :: s) (q :: t) = true ↔ p.toNat < q.toNat ∨ p.toNat = q.toNat ∧ le s t = true := by
  simp only [le, Bool.or_eq_true, Bool.and_eq_true, decide_eq_true_eq]

theorem le_total (s t : Wide) : (le s t || le t s) = true := by
  rw [Bool.or_eq_true]
  induction s generalizing t with
  | nil => simp [le]
  | cons p s ih =>
    cases t with
    | nil => simp [le]
    | cons q t =>
      rw [le_cons_iff, le_cons_iff]
      rcases Nat.lt_trichotomy p.toNat q.toNat with h | h | h
      · exact .inl (.inl h)
      · exact (ih t).imp (fun hle => .inr ⟨h, hle⟩) fun hle => .inr ⟨h.symm, hle⟩
      · exact .inr (.inl h)

theorem le_trans {s t u : Wide} (h : le s t = true) (k : le t u = true) : le s u = true := by
  induction s generalizing t u with
  | nil => simp [le]
  | cons a s ih =>
    cases t with
    | nil => simp [le] at h
    | cons b t =>
      cases u with
      | nil => simp [le] at k
      | cons c u =>
        rw [le_cons_iff] at h k ⊢
        rcases h with h | ⟨h, hle⟩ <;> rcases k with k | ⟨k, kle⟩
        · exact .inl (h.trans k)
        · exact .inl (k ▸ h)
        · exact .inl (h ▸ k)
        · exact .inr ⟨h.trans k, ih hle kle⟩

/-- A half stands where no character does, so code points are told apart by their numbers. -/
theorem toNat_injective {p q : CodePoint} (h : p.toNat = q.toNat) : p = q := by
  have hapart : ∀ (c : Char) (i : Fin 0x800), c.toNat ≠ firstHalf + i := by
    intro c i heq
    have hvalid : c.toNat.isValidChar := c.valid
    have hi := i.isLt
    simp only [firstHalf] at heq
    rcases hvalid with hlow | ⟨hhigh, -⟩ <;> omega
  cases p with
  | char c =>
    cases q with
    | char d => exact congrArg CodePoint.char (Char.toNat_inj.mp h)
    | half i => exact absurd h (hapart c i)
  | half i =>
    cases q with
    | char c => exact absurd h.symm (hapart c i)
    | half j => exact congrArg CodePoint.half (Fin.ext (Nat.add_left_cancel h))

theorem le_antisymm {s t : Wide} (h : le s t = true) (k : le t s = true) : s = t := by
  induction s generalizing t with
  | nil =>
    cases t with
    | nil => rfl
    | cons b t => simp [le] at k
  | cons a s ih =>
    cases t with
    | nil => simp [le] at h
    | cons b t =>
      rw [le_cons_iff] at h k
      rcases h with h | ⟨h, hle⟩ <;> rcases k with k | ⟨k, kle⟩
      · exact absurd k h.asymm
      · exact absurd h (k ▸ Nat.lt_irrefl _)
      · exact absurd k (h ▸ Nat.lt_irrefl _)
      · rw [toNat_injective h, ih hle kle]

end SchemaToJava.Text.Wide
