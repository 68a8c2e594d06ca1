import Mathlib.Algebra.BigOperators.Group.List.Lemmas
import Mathlib.Algebra.GroupWithZero.Nat
import Mathlib.Data.List.Nodup

/-!
Lists without their repetitions. What is left keeps the order of first occurrences.
-/

namespace SchemaToJava

variable {α : Type} [BEq α] [LawfulBEq α]

/-- Elements come in the order of their first occurrences. -/
theorem pairwise_idxOf_eraseDups (xs : List α) :
    xs.eraseDups.Pairwise fun x y => xs.idxOf x < xs.idxOf y := by
  -- From the end, since a further element does not move the first occurrences before it.
  induction xs using List.reverseRecOn with
  | nil => exact .nil
  | append_singleton xs z ih =>
    have hkept : ∀ x ∈ xs.eraseDups, (xs ++ [z]).idxOf x = xs.idxOf x := fun x hx =>
      List.idxOf_append_of_mem (List.mem_eraseDups.mp hx)
    have hold : xs.eraseDups.Pairwise fun x y => (xs ++ [z]).idxOf x < (xs ++ [z]).idxOf y :=
      ih.imp_of_mem fun hx hy h => by rwa [hkept _ hx, hkept _ hy]
    rw [List.eraseDups_append]
    by_cases hz : z ∈ xs
    · simpa [List.removeAll, hz] using hold
    · have hnew : ([z].removeAll xs).eraseDups = [z] := by
        simp [List.removeAll, hz, List.eraseDups_cons]
      rw [hnew, List.pairwise_append]
      refine ⟨hold, List.pairwise_singleton _ _, fun x hx y hy => ?_⟩
      rw [List.mem_singleton.mp hy, hkept x hx, List.idxOf_append_of_notMem hz]
      exact Nat.lt_add_right _ (List.idxOf_lt_length_of_mem (List.mem_eraseDups.mp hx))

theorem nodup_eraseDups (xs : List α) : xs.eraseDups.Nodup :=
  (pairwise_idxOf_eraseDups xs).imp fun h heq => absurd (heq ▸ h) (Nat.lt_irrefl _)

theorem sum_count_eraseDups {α : Type} [DecidableEq α] (xs : List α) :
    (xs.eraseDups.map (xs.count ·)).sum = xs.length := by
  have hperm : xs.eraseDups.Perm xs.dedup :=
    (List.perm_ext_iff_of_nodup (nodup_eraseDups xs) (List.nodup_dedup xs)).mpr fun x => by
      rw [List.mem_eraseDups, List.mem_dedup]
  rw [(hperm.map _).sum_eq, List.sum_map_count_dedup_eq_length]

end SchemaToJava
