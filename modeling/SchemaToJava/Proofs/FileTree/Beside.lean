import SchemaToJava.Proofs.FileTree.Writing

/-!
Trees that differ in one file only. A path that does not name the file, nor anything below it, leads
to the same in both; so what is created and written by such paths keeps the trees alike.
-/

namespace SchemaToJava.FileTree

/-- Neither a path nor what it names on its way is at the location. -/
def Avoids (t : FileTree) (l : Location) (p : Path) : Prop :=
  ∀ parts, parts <+: p.parts → t.placeOf ⟨p.anchor, parts⟩ ≠ l

/-- The larger tree has one file that the other has not. -/
structure Beside (l : Location) (bytes : List UInt8) (t u : FileTree) : Prop where
  home : u.home = t.home
  wellFormed : t.WellFormed
  larger : u.WellFormed
  absent : t.get? l = none
  present : u.get? l = some (.file bytes)
  elsewhere : ∀ {m : Location}, m ≠ l → u.get? m = t.get? m

variable {t u : FileTree} {l : Location} {bytes : List UInt8} {p : Path}

theorem avoids_iff (ht : t.WellFormed) :
    t.Avoids l p ↔ ∀ parts, parts <+: p.parts → parts.foldl Path.enter (t.start p) ≠ l := by
  have hplace : ∀ parts, t.placeOf ⟨p.anchor, parts⟩ = parts.foldl Path.enter (t.start p) :=
    fun parts => placeOf_eq_foldl ht _
  simp only [Avoids, hplace]

theorem Avoids.placeOf_ne (h : t.Avoids l p) : t.placeOf p ≠ l := h p.parts List.prefix_rfl

theorem Avoids.parent (h : t.Avoids l p) : t.Avoids l p.parent :=
  fun parts hparts => h parts (hparts.trans (List.dropLast_prefix _))

theorem Avoids.congr (h : t.Avoids l p) (hhome : u.home = t.home) : u.Avoids l p := by
  intro parts hparts
  rw [placeOf, hhome]
  exact h parts hparts

namespace Beside

/-- The larger tree is the other with one file written. -/
theorem wrote (h : Beside l bytes t u) : t.Wrote [(l, bytes)] u where
  home := h.home
  wellFormed := h.larger
  directories := by
    intro m hm
    rw [h.elsewhere, hm]
    rintro rfl
    cases h.absent.symm.trans hm
  files := by
    intro m
    rw [List.reverse_singleton, List.lookup_cons]
    by_cases hm : m = l
    · rw [hm, beq_self_eq_true, Option.some_or]
      exact fileAt?_eq_some_iff.mpr h.present
    · rw [beq_eq_false_iff_ne.mpr hm, List.lookup_nil, Option.none_or, fileAt?, fileAt?,
        h.elsewhere hm]

theorem foldlM_step (h : Beside l bytes t u) {parts : List String} {k : Location}
    (havoids : ∀ before, before <+: parts → before.foldl Path.enter k ≠ l) :
    parts.foldlM u.step k = parts.foldlM t.step k := by
  induction parts generalizing k with
  | nil => rfl
  | cons part rest ih =>
    have hk : k ≠ l := havoids [] (List.nil_prefix)
    have hstep : u.step k part = t.step k part := by rw [step, step, h.elsewhere hk]
    rw [List.foldlM_cons, List.foldlM_cons, hstep]
    cases hm : t.step k part with
    | error r => rfl
    | ok m =>
      obtain ⟨-, -, rfl⟩ := step_eq_ok_iff.mp hm
      exact ih fun before hbefore => havoids (part :: before) (by simpa using hbefore)

theorem start_eq (h : Beside l bytes t u) (p : Path) : u.start p = t.start p := by
  rw [start, start, h.home]

theorem locate_eq (h : Beside l bytes t u) (hp : t.Avoids l p) : u.locate p = t.locate p := by
  rw [locate, locate, h.start_eq, h.foldlM_step ((avoids_iff h.wellFormed).mp hp)]

theorem ne_of_locate (h : Beside l bytes t u) (hp : t.Avoids l p) {m : Location}
    (hm : t.locate p = .ok m) : m ≠ l := by
  rw [eq_placeOf_of_locate h.wellFormed hm]
  exact hp.placeOf_ne

theorem get?_eq (h : Beside l bytes t u) (hp : t.Avoids l p) {m : Location}
    (hm : t.locate p = .ok m) : u.get? m = t.get? m :=
  h.elsewhere (h.ne_of_locate hp hm)

theorem find_eq (h : Beside l bytes t u) (hp : t.Avoids l p) : u.find p = t.find p := by
  unfold find
  rw [h.locate_eq hp]
  cases hm : t.locate p with
  | error r => rfl
  | ok m =>
    simp only [bind, Except.bind]
    rw [h.get?_eq hp hm]

theorem isDirectory_eq (h : Beside l bytes t u) (hp : t.Avoids l p) :
    u.isDirectory p = t.isDirectory p :=
  isDirectory_congr (h.find_eq hp)

theorem insert (h : Beside l bytes t u) {m : Location} {e : Entry} (hne : m ≠ []) (hm : m ≠ l)
    (ht : (t.insert m e).WellFormed) (hu : (u.insert m e).WellFormed) :
    Beside l bytes (t.insert m e) (u.insert m e) := by
  refine ⟨h.home, ht, hu, ?_, ?_, fun {k} hk => ?_⟩
  · rw [get?_insert hne, if_neg hm.symm, h.absent]
  · rw [get?_insert hne, if_neg hm.symm, h.present]
  · rw [get?_insert hne, get?_insert hne, h.elsewhere hk]

/-- What is put somewhere else is put in both trees or refused in both, for the same reason. -/
theorem place (h : Beside l bytes t u) (hp : t.Avoids l p)
    {objection : Option Entry → Option FileError.Reason}
    (hobjection : objection (some .directory) ≠ none) (entry : Entry) :
    (∃ e, t.place p objection entry = .error e ∧ u.place p objection entry = .error e) ∨
    ∃ t' u', t.place p objection entry = .ok t' ∧ u.place p objection entry = .ok u' ∧
      Beside l bytes t' u' := by
  by_cases hnull : hasNull p = true
  · exact .inl ⟨.nullInPath, by rw [FileTree.place, if_pos hnull],
      by rw [FileTree.place, if_pos hnull]⟩
  · have hlocate := h.locate_eq hp
    cases hm : t.locate p with
    | error r =>
      rw [hm] at hlocate
      exact .inl ⟨.refused r p, by simp [FileTree.place, hnull, hm],
        by simp [FileTree.place, hnull, hlocate]⟩
    | ok m =>
      rw [hm] at hlocate
      have hsame := h.get?_eq hp hm
      cases hfree : objection (t.get? m) with
      | some r =>
        exact .inl ⟨.refused r p, by simp [FileTree.place, hnull, hm, hfree],
          by simp [FileTree.place, hnull, hlocate, hsame, hfree]⟩
      | none =>
        have hplain : hasNull p = false := Bool.eq_false_iff.mpr hnull
        have hput : t.place p objection entry = .ok (t.insert m entry) :=
          place_eq_ok_iff.mpr ⟨hplain, m, hm, hfree, rfl⟩
        have hput' : u.place p objection entry = .ok (u.insert m entry) :=
          place_eq_ok_iff.mpr ⟨hplain, m, hlocate, hsame ▸ hfree, rfl⟩
        have hother : t.get? m ≠ some .directory := fun hm => hobjection (hm ▸ hfree)
        exact .inr ⟨_, _, hput, hput', h.insert (ne_nil_of_get? hother) (h.ne_of_locate hp hm)
          (h.wellFormed.place hobjection hput) (h.larger.place hobjection hput')⟩

theorem makeDirectory (h : Beside l bytes t u) (hp : t.Avoids l p) :
    (∃ e, t.makeDirectory p = .error e ∧ u.makeDirectory p = .error e) ∨
    ∃ t' u', t.makeDirectory p = .ok t' ∧ u.makeDirectory p = .ok u' ∧ Beside l bytes t' u' := by
  simp only [makeDirectory_eq_place]
  exact h.place hp (Option.some_ne_none _) .directory

theorem makeDirectory_error (h : Beside l bytes t u) (hp : t.Avoids l p) {e : FileError}
    (he : t.makeDirectory p = .error e) : u.makeDirectory p = .error e := by
  rcases h.makeDirectory hp with ⟨f, hf, hu⟩ | ⟨t', u', ht', -, -⟩
  · cases he.symm.trans hf
    exact hu
  · cases he.symm.trans ht'

theorem makeDirectory_ok (h : Beside l bytes t u) (hp : t.Avoids l p) {t' : FileTree}
    (ht' : t.makeDirectory p = .ok t') :
    ∃ u', u.makeDirectory p = .ok u' ∧ Beside l bytes t' u' := by
  rcases h.makeDirectory hp with ⟨e, he, -⟩ | ⟨t'', u', ht'', hu', hbeside⟩
  · cases ht'.symm.trans he
  · cases ht'.symm.trans ht''
    exact ⟨u', hu', hbeside⟩

theorem settle_eq (h : Beside l bytes t u) (hp : t.Avoids l p) (e : FileError) :
    u.settle p e = (u, (t.settle p e).2) := by
  unfold settle
  split
  · rfl
  · rfl
  · rw [h.isDirectory_eq hp]

theorem makeDirectories (h : Beside l bytes t u) (hp : t.Avoids l p) :
    ∃ u', u.makeDirectories p = (u', (t.makeDirectories p).2) ∧
      Beside l bytes (t.makeDirectories p).1 u' := by
  -- The cases are those of the tree without the file; the larger tree follows it in each.
  fun_induction FileTree.makeDirectories t p with
  | case1 p v hv =>
    obtain ⟨u', hu', hbeside⟩ := h.makeDirectory_ok hp hv
    exact ⟨u', by rw [FileTree.makeDirectories, hu'], hbeside⟩
  | case2 p q hq hnil =>
    refine ⟨u, ?_, h⟩
    rw [FileTree.makeDirectories, h.makeDirectory_error hp hq]
    simp [hnil]
  | case3 p q hq hnil v e hup ih =>
    obtain ⟨u', hu', hbeside⟩ := ih hp.parent
    rw [hup] at hu' hbeside
    refine ⟨u', ?_, hbeside⟩
    rw [FileTree.makeDirectories, h.makeDirectory_error hp hq]
    simp [hnil, hu']
  | case4 p q hq hnil v r hup w hw ih =>
    obtain ⟨u', hu', hbeside⟩ := ih hp.parent
    rw [hup] at hu' hbeside
    have havoids := hp.congr (Wrote.of_makeDirectories_eq h.wellFormed hup).home
    obtain ⟨u'', hu'', hlast⟩ := hbeside.makeDirectory_ok havoids hw
    refine ⟨u'', ?_, hlast⟩
    rw [FileTree.makeDirectories, h.makeDirectory_error hp hq]
    simp [hnil, hu', hu'']
  | case5 p q hq hnil v r hup e he ih =>
    obtain ⟨u', hu', hbeside⟩ := ih hp.parent
    rw [hup] at hu' hbeside
    have havoids := hp.congr (Wrote.of_makeDirectories_eq h.wellFormed hup).home
    rw [settle_fst]
    refine ⟨u', ?_, hbeside⟩
    rw [FileTree.makeDirectories, h.makeDirectory_error hp hq]
    simp [hnil, hu', hbeside.makeDirectory_error havoids he, hbeside.settle_eq havoids]
  | case6 p e hne he =>
    rw [settle_fst]
    refine ⟨u, ?_, h⟩
    rw [FileTree.makeDirectories, h.makeDirectory_error hp he]
    split
    · rename_i hsame
      cases hsame
    · rename_i q hsame
      cases hsame
      exact absurd rfl (hne q)
    · rename_i hsame
      cases hsame
      exact h.settle_eq hp e

theorem write (h : Beside l bytes t u) (hp : t.Avoids l p) (content : List UInt8) :
    (∃ e, t.write p content = .error e ∧ u.write p content = .error e) ∨
    ∃ t' u', t.write p content = .ok t' ∧ u.write p content = .ok u' ∧ Beside l bytes t' u' := by
  simp only [write_eq_place]
  exact h.place hp (Option.some_ne_none _) (.file content)

end Beside

end SchemaToJava.FileTree
