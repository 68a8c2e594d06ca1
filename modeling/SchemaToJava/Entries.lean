/-!
Values by key, with the keys in the order in which they were first given. A key that is given again
keeps its place and takes the later value.
-/

namespace SchemaToJava

abbrev Entries (κ α : Type) := List (κ × α)

namespace Entries

section Put

variable {κ α : Type} [DecidableEq κ]

def keys (es : Entries κ α) : List κ := es.map (·.1)

/-- Gives a key a value, in place of the one it may have. -/
def put : Entries κ α → κ → α → Entries κ α
  | [], k, v => [(k, v)]
  | e :: es, k, v => if e.1 = k then (k, v) :: es else e :: put es k v

def putAll (es more : Entries κ α) : Entries κ α := more.foldl (fun es e => es.put e.1 e.2) es

theorem lookup_put (es : Entries κ α) (k : κ) (v : α) (l : κ) :
    (es.put k v).lookup l = if l = k then some v else es.lookup l := by
  induction es with
  | nil => by_cases h : l = k <;> simp [put, List.lookup_cons, h, beq_eq_false_iff_ne.mpr]
  | cons e es ih =>
    obtain ⟨m, u⟩ := e
    by_cases hm : m = k <;> by_cases hl : l = m <;>
      simp_all [put, List.lookup_cons, beq_eq_false_iff_ne.mpr]

/-- A new key comes last; one that is there already stays where it is. -/
theorem keys_put (es : Entries κ α) (k : κ) (v : α) :
    (es.put k v).keys = if k ∈ es.keys then es.keys else es.keys ++ [k] := by
  induction es with
  | nil => rfl
  | cons e es ih =>
    by_cases he : e.1 = k
    · simp [put, keys, he]
    · have hk : keys (e :: put es k v) = e.1 :: keys (put es k v) := rfl
      have hm : k ∈ keys (e :: es) ↔ k ∈ keys es := by simp [keys, Ne.symm he]
      simp only [put, he, if_false, hk, ih, hm]
      split <;> rfl

theorem nodup_keys_put {es : Entries κ α} (h : es.keys.Nodup) (k : κ) (v : α) :
    (es.put k v).keys.Nodup := by
  rw [keys_put]
  split
  · exact h
  · rename_i hk
    exact List.nodup_append.mpr ⟨h, by simp, by rintro a ha _ hb rfl; simp_all⟩

theorem put_of_not_mem {es : Entries κ α} {k : κ} (h : k ∉ es.keys) (v : α) :
    es.put k v = es ++ [(k, v)] := by
  induction es with
  | nil => rfl
  | cons e es ih =>
    obtain ⟨hne, h⟩ := List.ne_and_not_mem_of_not_mem_cons h
    rw [put, if_neg (Ne.symm hne), ih h, List.cons_append]

theorem putAll_of_nodup {es more : Entries κ α} (h : (keys (es ++ more)).Nodup) :
    es.putAll more = es ++ more := by
  induction more generalizing es with
  | nil => exact (List.append_nil es).symm
  | cons e more ih =>
    have hstep : es.putAll (e :: more) = (es.put e.1 e.2).putAll more := rfl
    have hnew : e.1 ∉ es.keys := by
      rw [keys, List.map_append, List.nodup_append] at h
      exact fun hmem => h.2.2 _ hmem _ List.mem_cons_self rfl
    rw [List.append_cons] at h ⊢
    rw [hstep, put_of_not_mem hnew, ih h]

theorem lookup_putAll (es more : Entries κ α) (k : κ) :
    (es.putAll more).lookup k = (more.reverse.lookup k).or (es.lookup k) := by
  induction more generalizing es with
  | nil => rfl
  | cons e more ih =>
    have hstep : es.putAll (e :: more) = (es.put e.1 e.2).putAll more := rfl
    rw [hstep, ih, lookup_put, List.reverse_cons, List.lookup_append, Option.or_assoc,
      List.lookup_cons]
    by_cases hk : k = e.1
    · simp [hk]
    · simp [hk, beq_eq_false_iff_ne.mpr hk]

end Put

section Lookup

variable {κ α : Type} [BEq κ] [LawfulBEq κ] {es fs : Entries κ α}

theorem mem_of_lookup {k : κ} {v : α} (h : es.lookup k = some v) : (k, v) ∈ es := by
  induction es with
  | nil => simp at h
  | cons e es ih =>
    obtain ⟨l, u⟩ := e
    rw [List.lookup_cons] at h
    by_cases hl : k = l
    · simp_all
    · rw [beq_eq_false_iff_ne.mpr hl] at h
      exact List.mem_cons_of_mem _ (ih h)

theorem lookup_of_mem (hn : (es.map (·.1)).Nodup) {k : κ} {v : α} (h : (k, v) ∈ es) :
    es.lookup k = some v := by
  induction es with
  | nil => simp at h
  | cons e es ih =>
    obtain ⟨l, u⟩ := e
    obtain ⟨hnew, hn⟩ := List.nodup_cons.mp hn
    rcases List.mem_cons.mp h with heq | hmem
    · cases heq
      simp
    · have hne : k ≠ l := fun heq => hnew (List.mem_map.mpr ⟨_, hmem, heq⟩)
      rw [List.lookup_cons, beq_eq_false_iff_ne.mpr hne]
      exact ih hn hmem

theorem lookup_perm (hn : (es.map (·.1)).Nodup) (h : es.Perm fs) (k : κ) :
    es.lookup k = fs.lookup k := by
  have hm : (fs.map (·.1)).Nodup := (h.map _).nodup_iff.mp hn
  refine Option.ext fun v => ⟨fun hv => ?_, fun hv => ?_⟩
  · exact lookup_of_mem hm (h.mem_iff.mp (mem_of_lookup hv))
  · exact lookup_of_mem hn (h.mem_iff.mpr (mem_of_lookup hv))

end Lookup

end Entries

end SchemaToJava
