import Mathlib.Data.List.Flatten
import SchemaToJava.Proofs.Emission.Artifacts

/-!
Which types a document gathers. Every name that is defined gathers the fields of its definitions
and, behind them, the fields of its extensions of the same kind. The walk fails where a definition
has another kind than the one before, or where a field name is taken.
-/

namespace SchemaToJava.Emission

open GraphQL

def fieldNames (fs : List DataField) : List String := fs.map (·.name)

@[simp] theorem fieldNames_append (fs gs : List DataField) :
    fieldNames (fs ++ gs) = fieldNames fs ++ fieldNames gs := List.map_append

/-- Fields whose names are distinct from each other and from those of the fields present. -/
structure Fresh (present fs : List DataField) : Prop where
  distinct : (fieldNames fs).Nodup
  absent : ∀ name ∈ fieldNames fs, name ∉ fieldNames present

section Fresh

variable {present fs rest : List DataField} {f : DataField}

theorem fresh_nil (present : List DataField) : Fresh present [] :=
  ⟨List.nodup_nil, fun _ h => nomatch h⟩

theorem fresh_cons :
    Fresh present (f :: fs) ↔ f.name ∉ fieldNames present ∧ Fresh (present ++ [f]) fs := by
  constructor
  · rintro ⟨hdistinct, habsent⟩
    obtain ⟨hnew, hdistinct⟩ := List.nodup_cons.mp hdistinct
    refine ⟨habsent _ List.mem_cons_self, hdistinct, fun name hname hmem => ?_⟩
    rw [fieldNames_append] at hmem
    rcases List.mem_append.mp hmem with hpresent | hself
    · exact habsent name (List.mem_cons_of_mem _ hname) hpresent
    · rw [List.mem_singleton.mp hself] at hname
      exact hnew hname
  · rintro ⟨hf, hdistinct, habsent⟩
    simp only [fieldNames_append, List.mem_append, not_or] at habsent
    refine ⟨List.nodup_cons.mpr ⟨fun hmem => ?_, hdistinct⟩, fun name hname => ?_⟩
    · exact (habsent f.name hmem).2 List.mem_cons_self
    · rcases List.mem_cons.mp hname with rfl | hname
      · exact hf
      · exact (habsent name hname).1

theorem nodup_append_iff : (fieldNames (present ++ fs)).Nodup ↔
    (fieldNames present).Nodup ∧ Fresh present fs := by
  rw [fieldNames_append, List.nodup_append']
  constructor
  · rintro ⟨hpresent, hdistinct, hdisjoint⟩
    exact ⟨hpresent, hdistinct, fun name hname hmem => hdisjoint hmem hname⟩
  · rintro ⟨hpresent, hdistinct, habsent⟩
    exact ⟨hpresent, hdistinct, fun name hmem hname => habsent name hname hmem⟩

theorem Fresh.not_taken (h : Fresh present (fs ++ f :: rest)) :
    f.name ∉ fieldNames (present ++ fs) := by
  induction fs generalizing present with
  | nil =>
    rw [List.append_nil]
    exact (fresh_cons.mp h).1
  | cons g fs ih =>
    have hrest := ih (fresh_cons.mp h).2
    rwa [List.append_assoc] at hrest

theorem fresh_or_taken (present fs : List DataField) :
    Fresh present fs ∨ ∃ before g after, fs = before ++ g :: after ∧
      Fresh present before ∧ g.name ∈ fieldNames (present ++ before) := by
  induction fs generalizing present with
  | nil => exact .inl (fresh_nil present)
  | cons f fs ih =>
    by_cases hf : f.name ∈ fieldNames present
    · exact .inr ⟨[], f, fs, rfl, fresh_nil present, by rwa [List.append_nil]⟩
    · rcases ih (present ++ [f]) with hfs | ⟨before, g, after, rfl, hbefore, hg⟩
      · exact .inl (fresh_cons.mpr ⟨hf, hfs⟩)
      · rw [List.append_assoc] at hg
        exact .inr ⟨f :: before, g, after, rfl, fresh_cons.mpr ⟨hf, hbefore⟩, hg⟩

theorem nodup_or_taken (fs gs : List DataField) (h : (fieldNames fs).Nodup) :
    (fieldNames (fs ++ gs)).Nodup ∨ ∃ before g after, gs = before ++ g :: after ∧
      (fieldNames (fs ++ before)).Nodup ∧ g.name ∈ fieldNames (fs ++ before) := by
  rcases fresh_or_taken fs gs with hgs | ⟨before, g, after, hsplit, hbefore, hg⟩
  · exact .inl (nodup_append_iff.mpr ⟨h, hgs⟩)
  · exact .inr ⟨before, g, after, hsplit, nodup_append_iff.mpr ⟨h, hbefore⟩, hg⟩

end Fresh

namespace DataType

theorem hasField_iff {d : DataType} {name : String} :
    d.hasField name = true ↔ name ∈ fieldNames d.fields := by
  simp [hasField, fieldNames]

theorem add_append {d : DataType} {fs : List DataField} (h : Fresh d.fields fs)
    (rest : List DataField) :
    d.add (fs ++ rest) = { d with fields := d.fields ++ fs }.add rest := by
  induction fs generalizing d with
  | nil => simp
  | cons f fs ih =>
    obtain ⟨hf, hfs⟩ := fresh_cons.mp h
    rw [List.cons_append, add, if_neg (hasField_iff.not.mpr hf), ih hfs]
    simp

theorem add_of_fresh {d : DataType} {fs : List DataField} (h : Fresh d.fields fs) :
    d.add fs = ({ d with fields := d.fields ++ fs }, none) := by
  have hadd := add_append h []
  rwa [List.append_nil] at hadd

theorem add_of_taken {d : DataType} {before after : List DataField} {g : DataField}
    (h : Fresh d.fields before) (hg : g.name ∈ fieldNames (d.fields ++ before)) :
    d.add (before ++ g :: after) = ({ d with fields := d.fields ++ before }, some g.name) := by
  have htaken : ({ d with fields := d.fields ++ before } : DataType).hasField g.name = true :=
    hasField_iff.mpr hg
  rw [add_append h, add, if_pos htaken]

/-- What adding fields comes to: all of them are added if they are fresh, and else those before the
first whose name is taken, which is the name that is told. -/
inductive Adds (d : DataType) (fs : List DataField) : DataType → Except Fault DataType → Prop where
  | all (hfresh : Fresh d.fields fs) :
    Adds d fs { d with fields := d.fields ++ fs } (.ok { d with fields := d.fields ++ fs })
  | part {before after : List DataField} {g : DataField} (hfs : fs = before ++ g :: after)
    (hfresh : Fresh d.fields before) (htaken : g.name ∈ fieldNames (d.fields ++ before)) :
    Adds d fs { d with fields := d.fields ++ before } (.error (.duplicateField d.name g.name))

theorem adds (d : DataType) (fs : List DataField) : Adds d fs (d.add fs).1 (d.addAll fs) := by
  rcases fresh_or_taken d.fields fs with hfresh | ⟨before, g, after, rfl, hfresh, htaken⟩
  · rw [addAll, add_of_fresh hfresh]
    exact .all hfresh
  · rw [addAll, add_of_taken hfresh htaken]
    exact .part rfl hfresh htaken

theorem addAll_eq {d e : DataType} {fs : List DataField} (h : d.addAll fs = .ok e) :
    e = { d with fields := d.fields ++ fs } := by
  have hadds := d.adds fs
  rw [h] at hadds
  generalize (d.add fs).1 = after at hadds
  cases hadds with
  | all _ => rfl

theorem addAll_of_nodup {d : DataType} {fs : List DataField}
    (h : (fieldNames (d.fields ++ fs)).Nodup) :
    d.addAll fs = .ok { d with fields := d.fields ++ fs } := by
  rw [addAll, add_of_fresh (nodup_append_iff.mp h).2]

theorem addAll_of_taken {d : DataType} {before after : List DataField} {g : DataField}
    (h : (fieldNames (d.fields ++ before)).Nodup) (hg : g.name ∈ fieldNames (d.fields ++ before)) :
    d.addAll (before ++ g :: after) = .error (.duplicateField d.name g.name) := by
  rw [addAll, add_of_taken (nodup_append_iff.mp h).2 hg]

end DataType

def gathered (ds es : List DataType) (name : String) (kind : TypeKind) : List DataField :=
  (ds.filter fun d => d.name = name).flatMap (·.fields) ++
    (es.filter fun e => e.name = name ∧ e.kind = kind).flatMap (·.fields)

def firsts : List DataType → List DataType
  | [] => []
  | d :: ds => d :: (firsts ds).filter fun e => e.name ≠ d.name

def complete (ds es : List DataType) (d : DataType) : DataType :=
  { d with fields := gathered ds es d.name d.kind }

/-- What definitions and extensions give together: one type for each name that is defined, in order
of the first definitions. -/
def merged (ds es : List DataType) : Collection := (firsts ds).map (complete ds es)

/-- All definitions of one name have one kind, and no name has a field twice. -/
structure Consistent (ds es : List DataType) : Prop where
  kinds : ∀ d ∈ ds, ∀ e ∈ ds, d.name = e.name → d.kind = e.kind
  fields : ∀ d ∈ ds, (fieldNames (gathered ds es d.name d.kind)).Nodup

instance (ds es : List DataType) : Decidable (Consistent ds es) :=
  decidable_of_iff
    ((∀ d ∈ ds, ∀ e ∈ ds, d.name = e.name → d.kind = e.kind) ∧
      ∀ d ∈ ds, (fieldNames (gathered ds es d.name d.kind)).Nodup)
    ⟨fun h => ⟨h.1, h.2⟩, fun h => ⟨h.kinds, h.fields⟩⟩

section Gathered

variable (ds es : List DataType) (d : DataType) (name : String) (kind : TypeKind)

theorem gathered_define :
    gathered (ds ++ [d]) [] name kind =
      gathered ds [] name kind ++ if d.name = name then d.fields else [] := by
  by_cases h : d.name = name <;> simp [gathered, h]

theorem gathered_extend :
    gathered ds (es ++ [d]) name kind =
      gathered ds es name kind ++ if d.name = name ∧ d.kind = kind then d.fields else [] := by
  by_cases h : d.name = name ∧ d.kind = kind <;> simp [gathered, h]

theorem gathered_define_self :
    gathered (ds ++ [d]) [] d.name d.kind = gathered ds [] d.name d.kind ++ d.fields := by
  rw [gathered_define, if_pos rfl]

theorem gathered_extend_self :
    gathered ds (es ++ [d]) d.name d.kind = gathered ds es d.name d.kind ++ d.fields := by
  rw [gathered_extend, if_pos ⟨rfl, rfl⟩]

end Gathered

theorem gathered_define_of_ne {ds : List DataType} {d : DataType} {name : String}
    (h : d.name ≠ name) (kind : TypeKind) :
    gathered (ds ++ [d]) [] name kind = gathered ds [] name kind := by
  rw [gathered_define, if_neg h, List.append_nil]

theorem gathered_extend_of_not {ds es : List DataType} {d : DataType} {name : String}
    {kind : TypeKind} (h : ¬ (d.name = name ∧ d.kind = kind)) :
    gathered ds (es ++ [d]) name kind = gathered ds es name kind := by
  rw [gathered_extend, if_neg h, List.append_nil]

theorem gathered_of_new {ds : List DataType} {name : String} (h : name ∉ Collection.names ds)
    (kind : TypeKind) : gathered ds [] name kind = [] := by
  have hfilter : ds.filter (fun d => d.name = name) = [] :=
    List.filter_eq_nil_iff.mpr fun d hd => by
      have hne : d.name ≠ name := fun hname => h (List.mem_map.mpr ⟨d, hd, hname⟩)
      simpa using hne
  simp [gathered, hfilter]

section Firsts

variable {ds : List DataType}

theorem find?_firsts (name : String) :
    (firsts ds).find? (·.name == name) = ds.find? (·.name == name) := by
  induction ds with
  | nil => rfl
  | cons d ds ih =>
    rw [firsts, List.find?_cons, List.find?_cons, ← ih]
    split
    · rfl
    · rename_i hd
      rw [List.find?_filter]
      refine congrArg (fun p => List.find? p (firsts ds)) (funext fun e => ?_)
      by_cases he : e.name = name
      · have hne : e.name ≠ d.name := fun h => by simp [← h, he] at hd
        simp [he, he ▸ hne]
      · simp [he]

theorem firsts_append_of_new {d : DataType} (h : d.name ∉ Collection.names ds) :
    firsts (ds ++ [d]) = firsts ds ++ [d] := by
  induction ds with
  | nil => rfl
  | cons e ds ih =>
    obtain ⟨hne, h⟩ := List.ne_and_not_mem_of_not_mem_cons h
    rw [List.cons_append, firsts, ih h, firsts, List.filter_append, List.cons_append,
      List.filter_cons_of_pos (by simpa using hne), List.filter_nil]

theorem firsts_append_of_mem {d : DataType} (h : d.name ∈ Collection.names ds) :
    firsts (ds ++ [d]) = firsts ds := by
  induction ds with
  | nil => cases h
  | cons e ds ih =>
    rw [List.cons_append, firsts, firsts]
    by_cases hlater : d.name ∈ Collection.names ds
    · rw [ih hlater]
    · have he : d.name = e.name := (List.mem_cons.mp h).resolve_right hlater
      rw [firsts_append_of_new hlater, List.filter_append,
        List.filter_cons_of_neg (by simpa using he), List.filter_nil, List.append_nil]

theorem find?_of_mem_firsts {d : DataType} (h : d ∈ firsts ds) :
    ds.find? (·.name == d.name) = some d := by
  induction ds with
  | nil => cases h
  | cons e ds ih =>
    rw [firsts] at h
    rcases List.mem_cons.mp h with rfl | h
    · simp
    · obtain ⟨hmem, hne⟩ := List.mem_filter.mp h
      rw [List.find?_cons_of_neg (by simpa using Ne.symm (of_decide_eq_true hne))]
      exact ih hmem

end Firsts

theorem find?_merged (ds es : List DataType) (name : String) :
    (merged ds es).find? name = (ds.find? (·.name == name)).map (complete ds es) := by
  rw [merged, Collection.find?, List.find?_map, ← find?_firsts]
  rfl

theorem complete_congr {ds es ds' es' : List DataType} {d : DataType}
    (h : gathered ds' es' d.name d.kind = gathered ds es d.name d.kind) :
    complete ds' es' d = complete ds es d := by
  rw [complete, complete, h]

/-- Where only the fields of one name change, the type of that name is put in its own place. -/
theorem replace_merged {ds es ds' es' : List DataType} {first : DataType} (hmem : first ∈ firsts ds)
    (hfirsts : firsts ds' = firsts ds)
    (hother : ∀ d ∈ firsts ds, d.name ≠ first.name →
      gathered ds' es' d.name d.kind = gathered ds es d.name d.kind) :
    (merged ds es).replace (complete ds' es' first) = merged ds' es' := by
  rw [merged, merged, Collection.replace, List.map_map, hfirsts]
  refine List.map_congr_left fun d hd => ?_
  by_cases hname : d.name = first.name
  · have hsame : d = first :=
      Option.some.inj ((find?_of_mem_firsts hd).symm.trans (hname ▸ find?_of_mem_firsts hmem))
    exact (if_pos (beq_iff_eq.mpr hname)).trans (congrArg _ hsame.symm)
  · refine (if_neg fun h => hname (beq_iff_eq.mp h)).trans ?_
    exact (complete_congr (hother d hd hname)).symm

theorem mem_firsts_of_find? {ds : List DataType} {name : String} {first : DataType}
    (h : ds.find? (·.name == name) = some first) : first ∈ firsts ds ∧ first.name = name := by
  rw [← find?_firsts] at h
  exact ⟨List.mem_of_find?_eq_some h, by simpa using List.find?_some h⟩

theorem complete_eq {ds es : List DataType} {d e : DataType} (hn : d.name = e.name)
    (hk : d.kind = e.kind) : complete ds es d = complete ds es e := by
  simp only [complete, hn, hk]

section Steps

variable {ds es : List DataType} {d : DataType}

theorem addAll_define {new : DataType} (h : (complete ds [] d).addAll d.fields = .ok new) :
    new = complete (ds ++ [d]) [] d := by
  rw [DataType.addAll_eq h]
  simp only [complete, gathered_define_self]

theorem addAll_extend {new : DataType} (h : (complete ds es d).addAll d.fields = .ok new) :
    new = complete ds (es ++ [d]) d := by
  rw [DataType.addAll_eq h]
  simp only [complete, gathered_extend_self]

theorem merged_define_of_new (hnew : d.name ∉ Collection.names ds) :
    merged (ds ++ [d]) [] = merged ds [] ++ [complete (ds ++ [d]) [] d] := by
  rw [merged, firsts_append_of_new hnew, List.map_append, List.map_singleton, merged]
  refine congrArg (· ++ _) (List.map_congr_left fun e he => ?_)
  have hne : d.name ≠ e.name := fun h => by
    have hfound := List.mem_of_find?_eq_some (find?_of_mem_firsts he)
    exact hnew (List.mem_map.mpr ⟨e, hfound, h.symm⟩)
  exact complete_congr (gathered_define_of_ne hne e.kind)

theorem define_merged
    (hkind : ∀ first, ds.find? (·.name == d.name) = some first → first.kind = d.kind) :
    (merged ds []).define d =
      (complete ds [] d).addAll d.fields >>= fun _ => .ok (merged (ds ++ [d]) []) := by
  rw [Collection.define, find?_merged]
  cases hfind : ds.find? (·.name == d.name) with
  | none =>
    -- A new name comes last, and nothing has been gathered for it yet.
    have hnew : d.name ∉ Collection.names ds := Collection.not_mem_names hfind
    have hempty : complete ds [] d = ⟨d.name, d.kind, []⟩ := by
      rw [complete, gathered_of_new hnew]
    simp only [Option.map_none, ← hempty]
    cases hadd : (complete ds [] d).addAll d.fields with
    | error f => rfl
    | ok new =>
      refine congrArg Except.ok ?_
      rw [merged_define_of_new hnew, addAll_define hadd]
  | some first =>
    obtain ⟨hmem, hname⟩ := mem_firsts_of_find? hfind
    have hsame : complete ds [] first = complete ds [] d := complete_eq hname (hkind first hfind)
    have hthere : (complete ds [] first).kind = d.kind := hkind first hfind
    simp only [Option.map_some]
    rw [if_pos hthere, hsame]
    cases hadd : (complete ds [] d).addAll d.fields with
    | error f => rfl
    | ok new =>
      have hnew : new = complete (ds ++ [d]) [] first := by
        rw [addAll_define hadd, complete_eq hname (hkind first hfind)]
      refine congrArg Except.ok (hnew ▸ replace_merged hmem ?_ fun e _ he => ?_)
      · have hmem := List.mem_of_find?_eq_some hfind
        exact firsts_append_of_mem (List.mem_map.mpr ⟨first, hmem, hname⟩)
      · exact gathered_define_of_ne (fun h => he (hname ▸ h.symm)) e.kind

theorem extend_merged {first : DataType} (hfirst : ds.find? (·.name == d.name) = some first)
    (hkind : first.kind = d.kind) :
    ((merged ds es).extend d).outcome =
      (complete ds es d).addAll d.fields >>= fun _ => .ok (merged ds (es ++ [d])) := by
  obtain ⟨hmem, hname⟩ := mem_firsts_of_find? hfirst
  have hsame : complete ds es first = complete ds es d := complete_eq hname hkind
  have hthere : (complete ds es first).kind = d.kind := hkind
  rw [Collection.extend, find?_merged, hfirst]
  simp only [Option.map_some]
  rw [if_pos hthere, hsame, Traced.outcome_bind, Traced.outcome_silently]
  cases hadd : (complete ds es d).addAll d.fields with
  | error f => rfl
  | ok new =>
    have hnew : new = complete ds (es ++ [d]) first := by
      rw [addAll_extend hadd, complete_eq hname hkind]
    refine congrArg Except.ok (hnew ▸ replace_merged hmem rfl fun e _ he => ?_)
    exact gathered_extend_of_not fun h => he (hname ▸ h.1.symm)

theorem extend_merged_of_foreign
    (hkind : ∀ first, ds.find? (·.name == d.name) = some first → first.kind ≠ d.kind) :
    ((merged ds es).extend d).outcome = .ok (merged ds (es ++ [d])) := by
  have hsame : merged ds (es ++ [d]) = merged ds es := by
    refine List.map_congr_left fun e he => complete_congr ?_
    have hforeign : ¬ (d.name = e.name ∧ d.kind = e.kind) := fun h =>
      hkind e (h.1 ▸ find?_of_mem_firsts he) h.2.symm
    exact gathered_extend_of_not hforeign
  rw [Collection.extend, find?_merged, hsame]
  cases hfind : ds.find? (·.name == d.name) with
  | none => rfl
  | some first =>
    have hthere : (complete ds es first).kind ≠ d.kind := hkind first hfind
    simp only [Option.map_some]
    rw [if_neg hthere]
    rfl

end Steps

section Consistency

variable {ds es : List DataType} {d : DataType}

theorem Consistent.exists_first (h : Consistent ds es) {e : DataType} (he : e ∈ ds)
    (hname : e.name = d.name) :
    ∃ first, ds.find? (·.name == d.name) = some first ∧ first.kind = e.kind := by
  have hsome : (ds.find? (·.name == d.name)).isSome = true :=
    List.find?_isSome.mpr ⟨e, he, beq_iff_eq.mpr hname⟩
  obtain ⟨first, hfirst⟩ := Option.isSome_iff_exists.mp hsome
  refine ⟨first, hfirst, h.kinds first (List.mem_of_find?_eq_some hfirst) e he ?_⟩
  exact (mem_firsts_of_find? hfirst).2.trans hname.symm

theorem consistent_define (h : Consistent ds []) :
    Consistent (ds ++ [d]) [] ↔
      (∀ first, ds.find? (·.name == d.name) = some first → first.kind = d.kind) ∧
        (fieldNames (gathered ds [] d.name d.kind ++ d.fields)).Nodup := by
  have hown := gathered_define_self ds d
  have hlast : d ∈ ds ++ [d] := List.mem_append_right ds List.mem_cons_self
  constructor
  · intro hc
    refine ⟨fun first hfirst => ?_, hown ▸ hc.fields d hlast⟩
    exact hc.kinds first (List.mem_append_left _ (List.mem_of_find?_eq_some hfirst)) d hlast
      (mem_firsts_of_find? hfirst).2
  · rintro ⟨hkind, hnodup⟩
    have hold : ∀ e ∈ ds ++ [d], e.name = d.name → e.kind = d.kind := by
      intro e he hname
      rcases List.mem_append.mp he with hin | hin
      · obtain ⟨first, hfirst, hsame⟩ := h.exists_first hin hname
        exact hsame.symm.trans (hkind first hfirst)
      · rw [List.mem_singleton.mp hin]
    constructor
    · intro e he f hf hname
      by_cases hd : f.name = d.name
      · exact (hold e he (hname.trans hd)).trans (hold f hf hd).symm
      · have hin : ∀ g ∈ ds ++ [d], g.name ≠ d.name → g ∈ ds := fun g hg hne =>
          (List.mem_append.mp hg).resolve_right fun hl => hne (by rw [List.mem_singleton.mp hl])
        exact h.kinds e (hin e he fun h => hd (hname ▸ h)) f (hin f hf hd) hname
    · intro e he
      by_cases hname : d.name = e.name
      · rwa [← hname, hold e he hname.symm, hown]
      · have hbefore : e ∈ ds := (List.mem_append.mp he).resolve_right fun hl =>
          hname (by rw [List.mem_singleton.mp hl])
        rw [gathered_define_of_ne hname]
        exact h.fields e hbefore

theorem consistent_extend (h : Consistent ds es) :
    Consistent ds (es ++ [d]) ↔
      ∀ first, ds.find? (·.name == d.name) = some first → first.kind = d.kind →
        (fieldNames (gathered ds es d.name d.kind ++ d.fields)).Nodup := by
  have hown := gathered_extend_self ds es d
  constructor
  · intro hc first hfirst hkind
    have hnodup := hc.fields first (List.mem_of_find?_eq_some hfirst)
    rwa [(mem_firsts_of_find? hfirst).2, hkind, hown] at hnodup
  · intro hnodup
    refine ⟨h.kinds, fun e he => ?_⟩
    by_cases hsame : d.name = e.name ∧ d.kind = e.kind
    · obtain ⟨first, hfirst, hkind⟩ := h.exists_first he hsame.1.symm
      rw [← hsame.1, ← hsame.2, hown]
      exact hnodup first hfirst (hkind.trans hsame.2.symm)
    · rw [gathered_extend_of_not hsame]
      exact h.fields e he

end Consistency

/-- What is wrong with a definition, given those before it. -/
inductive DefinitionViolation (before : List DataType) (d : DataType) : Fault → Prop where
  | kind {first : DataType} (hfirst : before.find? (·.name == d.name) = some first)
    (hkind : first.kind ≠ d.kind) :
    DefinitionViolation before d (.conflictingKinds d.name first.kind d.kind)
  | field {fs gs : List DataField} {g : DataField} (hfields : d.fields = fs ++ g :: gs)
    (hfirst : Consistent (before ++ [{ d with fields := fs }]) [])
    (htaken : g.name ∈
      fieldNames (gathered (before ++ [{ d with fields := fs }]) [] d.name d.kind)) :
    DefinitionViolation before d (.duplicateField d.name g.name)

/-- What is wrong with an extension, given all definitions and the extensions before it. -/
inductive ExtensionViolation (ds before : List DataType) (e : DataType) : Fault → Prop where
  | field {fs gs : List DataField} {g : DataField} (hfields : e.fields = fs ++ g :: gs)
    (hdefined : ∃ d ∈ ds, d.name = e.name ∧ d.kind = e.kind)
    (hfirst : Consistent ds (before ++ [{ e with fields := fs }]))
    (htaken : g.name ∈
      fieldNames (gathered ds (before ++ [{ e with fields := fs }]) e.name e.kind)) :
    ExtensionViolation ds before e (.duplicateField e.name g.name)

/-- The first thing that is wrong when all definitions are looked at before all extensions. -/
inductive FirstViolation (ds es : List DataType) (f : Fault) : Prop where
  | definition {before after : List DataType} {d : DataType} (hds : ds = before ++ d :: after)
    (hbefore : Consistent before []) (hd : DefinitionViolation before d f)
  | extension {before after : List DataType} {e : DataType} (hes : es = before ++ e :: after)
    (hbefore : Consistent ds before) (he : ExtensionViolation ds before e f)

section Violations

variable {ds es : List DataType} {d : DataType}

theorem define_of_consistent (h : Consistent ds []) (hd : Consistent (ds ++ [d]) []) :
    (merged ds []).define d = .ok (merged (ds ++ [d]) []) := by
  obtain ⟨hkind, hnodup⟩ := (consistent_define h).mp hd
  rw [define_merged hkind, DataType.addAll_of_nodup hnodup]
  rfl

theorem extend_of_consistent (h : Consistent ds es) (hd : Consistent ds (es ++ [d])) :
    ((merged ds es).extend d).outcome = .ok (merged ds (es ++ [d])) := by
  by_cases hfirst : ∃ first, ds.find? (·.name == d.name) = some first ∧ first.kind = d.kind
  · obtain ⟨first, hfirst, hkind⟩ := hfirst
    have hnodup := (consistent_extend h).mp hd first hfirst hkind
    rw [extend_merged hfirst hkind, DataType.addAll_of_nodup hnodup]
    rfl
  · exact extend_merged_of_foreign fun first h hkind => hfirst ⟨first, h, hkind⟩

theorem define_of_violation (h : Consistent ds []) {f : Fault} (hf : DefinitionViolation ds d f) :
    (merged ds []).define d = .error f := by
  cases hf with
  | @kind first hfirst hkind =>
    have hthere : (complete ds [] first).kind ≠ d.kind := hkind
    rw [Collection.define, find?_merged, hfirst]
    simp only [Option.map_some]
    rw [if_neg hthere]
    rfl
  | @field fs gs g hfields hfirst htaken =>
    obtain ⟨hkind, hnodup⟩ := (consistent_define h).mp hfirst
    rw [gathered_define_self] at htaken
    have hadd : (complete ds [] d).addAll (fs ++ g :: gs) =
        .error (.duplicateField d.name g.name) :=
      DataType.addAll_of_taken hnodup htaken
    rw [define_merged (d := d) hkind, hfields, hadd]
    rfl

theorem extend_of_violation (h : Consistent ds es) {f : Fault} (hf : ExtensionViolation ds es d f) :
    ((merged ds es).extend d).outcome = .error f := by
  cases hf with
  | @field fs gs g hfields hdefined hfirst htaken =>
    obtain ⟨e, he, hname, hkind⟩ := hdefined
    obtain ⟨first, hfind, hsame⟩ := h.exists_first he hname
    have hnodup := (consistent_extend h).mp hfirst first hfind (hsame.trans hkind)
    rw [gathered_extend_self] at htaken
    have hadd : (complete ds es d).addAll (fs ++ g :: gs) =
        .error (.duplicateField d.name g.name) :=
      DataType.addAll_of_taken hnodup htaken
    rw [extend_merged hfind (hsame.trans hkind), hfields, hadd]
    rfl

theorem nodup_gathered (h : Consistent ds []) (name : String) (kind : TypeKind) :
    (fieldNames (gathered ds [] name kind)).Nodup := by
  by_cases hname : name ∈ Collection.names ds
  · obtain ⟨e, he, rfl⟩ := List.mem_map.mp hname
    exact h.fields e he
  · rw [gathered_of_new hname]
    exact List.nodup_nil

theorem consistent_or_definitionViolation (h : Consistent ds []) (d : DataType) :
    Consistent (ds ++ [d]) [] ∨ ∃ f, DefinitionViolation ds d f := by
  by_cases hclash : ∃ first, ds.find? (·.name == d.name) = some first ∧ first.kind ≠ d.kind
  · obtain ⟨first, hfirst, hkind⟩ := hclash
    exact .inr ⟨_, .kind hfirst hkind⟩
  · have hkind : ∀ first, ds.find? (·.name == d.name) = some first → first.kind = d.kind :=
      fun first hfirst => of_not_not fun hne => hclash ⟨first, hfirst, hne⟩
    have hgathered := nodup_gathered h d.name d.kind
    rcases nodup_or_taken _ d.fields hgathered with hnodup | ⟨fs, g, gs, hfields, hnodup, htaken⟩
    · exact .inl ((consistent_define h).mpr ⟨hkind, hnodup⟩)
    · refine .inr ⟨_, .field hfields ((consistent_define h).mpr ⟨hkind, hnodup⟩) ?_⟩
      rwa [gathered_define_self]

theorem consistent_or_extensionViolation (h : Consistent ds es) (d : DataType) :
    Consistent ds (es ++ [d]) ∨ ∃ f, ExtensionViolation ds es d f := by
  by_cases hdefined : ∃ first, ds.find? (·.name == d.name) = some first ∧ first.kind = d.kind
  · obtain ⟨first, hfirst, hkind⟩ := hdefined
    have hmem := List.mem_of_find?_eq_some hfirst
    have hname := (mem_firsts_of_find? hfirst).2
    have hd := h.fields first hmem
    rw [hname, hkind] at hd
    rcases nodup_or_taken _ d.fields hd with hnodup | ⟨fs, g, gs, hfields, hnodup, htaken⟩
    · exact .inl ((consistent_extend h).mpr fun _ _ _ => hnodup)
    · refine .inr ⟨_, .field hfields ⟨first, hmem, hname, hkind⟩
        ((consistent_extend h).mpr fun _ _ _ => hnodup) ?_⟩
      rwa [gathered_extend_self]
  · exact .inl ((consistent_extend h).mpr fun first hfirst hkind =>
      absurd ⟨first, hfirst, hkind⟩ hdefined)

end Violations

section Walk

variable {ds es : List DataType}

theorem Consistent.of_prefix {ds' es' : List DataType} (h : Consistent ds' es') (hds : ds <+: ds')
    (hes : es <+: es') : Consistent ds es := by
  constructor
  · intro d hd e he
    exact h.kinds d (hds.subset hd) e (hds.subset he)
  · intro d hd
    have hsub : (gathered ds es d.name d.kind).Sublist (gathered ds' es' d.name d.kind) :=
      ((hds.sublist.filter _).flatMap _).append ((hes.sublist.filter _).flatMap _)
    exact (h.fields d (hds.subset hd)).sublist (hsub.map _)

theorem foldlM_define (h : Consistent ds []) :
    ds.foldlM Collection.define [] = .ok (merged ds []) := by
  -- From the end: what is consistent with one more definition is so without it.
  induction ds using List.reverseRecOn with
  | nil => rfl
  | append_singleton ds d ih =>
    have hds : Consistent ds [] := h.of_prefix (List.prefix_append ds [d]) List.nil_prefix
    rw [List.foldlM_append, ih hds]
    exact (bind_pure _).trans (define_of_consistent hds h)

theorem foldlM_extend (h : Consistent ds es) :
    es.foldlM (fun c e => (c.extend e).outcome) (merged ds []) = .ok (merged ds es) := by
  induction es using List.reverseRecOn with
  | nil => rfl
  | append_singleton es e ih =>
    have hes : Consistent ds es := h.of_prefix List.prefix_rfl (List.prefix_append es [e])
    rw [List.foldlM_append, ih hes]
    exact (bind_pure _).trans (extend_of_consistent hes h)

theorem consistent_nil : Consistent [] [] := ⟨by simp, by simp⟩

theorem definitions_consistent_or (ds es rest : List DataType) :
    Consistent ds [] ∨ ∃ f, FirstViolation (ds ++ rest) es f := by
  induction ds using List.reverseRecOn generalizing rest with
  | nil => exact .inl consistent_nil
  | append_singleton ds d ih =>
    rw [List.append_assoc]
    rcases ih ([d] ++ rest) with h | h
    · rcases consistent_or_definitionViolation h d with hd | ⟨f, hf⟩
      · exact .inl hd
      · exact .inr ⟨f, .definition rfl h hf⟩
    · exact .inr h

theorem extensions_consistent_or (hds : Consistent ds []) (es rest : List DataType) :
    Consistent ds es ∨ ∃ f, FirstViolation ds (es ++ rest) f := by
  induction es using List.reverseRecOn generalizing rest with
  | nil => exact .inl hds
  | append_singleton es e ih =>
    rw [List.append_assoc]
    rcases ih ([e] ++ rest) with h | h
    · rcases consistent_or_extensionViolation h e with he | ⟨f, hf⟩
      · exact .inl he
      · exact .inr ⟨f, .extension rfl h hf⟩
    · exact .inr h

theorem consistent_or_firstViolation (ds es : List DataType) :
    Consistent ds es ∨ ∃ f, FirstViolation ds es f := by
  rcases definitions_consistent_or ds es [] with hds | h
  · have hes := extensions_consistent_or hds es []
    rwa [List.append_nil] at hes
  · rw [List.append_nil] at h
    exact .inr h

end Walk

section Documents

variable {doc : Document}

theorem dataTypes_of_consistent (h : Consistent (definedTypes doc) (extendedTypes doc)) :
    (dataTypes doc).outcome = .ok (merged (definedTypes doc) (extendedTypes doc)) := by
  have hds : Consistent (definedTypes doc) [] :=
    h.of_prefix List.prefix_rfl List.nil_prefix
  rw [dataTypes, Traced.outcome_bind, Traced.outcome_silently, foldlM_define hds]
  exact (Traced.outcome_foldlM _ _ _).trans (foldlM_extend h)

theorem dataTypes_of_firstViolation {f : Fault}
    (h : FirstViolation (definedTypes doc) (extendedTypes doc) f) :
    (dataTypes doc).outcome = .error f := by
  rw [dataTypes, Traced.outcome_bind, Traced.outcome_silently]
  cases h with
  | @definition before after d hds hbefore hd =>
    rw [hds, Outcome.foldlM_eq_error (foldlM_define hbefore) (define_of_violation hbefore hd)]
    rfl
  | @extension before after e hes hbefore he =>
    have hds : Consistent (definedTypes doc) [] :=
      hbefore.of_prefix List.prefix_rfl List.nil_prefix
    rw [foldlM_define hds]
    refine (Traced.outcome_foldlM _ _ _).trans ?_
    rw [hes]
    exact Outcome.foldlM_eq_error (foldlM_extend hbefore) (extend_of_violation hbefore he)

/-- The types of a document are what its definitions and extensions give together, if these are
consistent. -/
theorem dataTypes_eq_ok_iff {c : Collection} :
    (dataTypes doc).outcome = .ok c ↔ Consistent (definedTypes doc) (extendedTypes doc) ∧
      c = merged (definedTypes doc) (extendedTypes doc) := by
  constructor
  · intro h
    rcases consistent_or_firstViolation (definedTypes doc) (extendedTypes doc) with hc | ⟨f, hf⟩
    · rw [dataTypes_of_consistent hc] at h
      exact ⟨hc, (Except.ok.inj h).symm⟩
    · rw [dataTypes_of_firstViolation hf] at h
      cases h
  · rintro ⟨h, rfl⟩
    exact dataTypes_of_consistent h

theorem dataTypes_eq_error_iff {f : Fault} :
    (dataTypes doc).outcome = .error f ↔
      FirstViolation (definedTypes doc) (extendedTypes doc) f := by
  refine ⟨fun h => ?_, dataTypes_of_firstViolation⟩
  rcases consistent_or_firstViolation (definedTypes doc) (extendedTypes doc) with hc | ⟨g, hg⟩
  · rw [dataTypes_of_consistent hc] at h
    cases h
  · rw [dataTypes_of_firstViolation hg] at h
    exact Except.error.inj h ▸ hg

end Documents

end SchemaToJava.Emission
