import Mathlib.Data.List.Basic
import Mathlib.Data.List.Induction
import Mathlib.Data.List.TakeWhile
import SchemaToJava.Config.Arguments

/-!
What arguments say about keys and values. Of the arguments for a key the last one counts, keys stand
in the order of their first arguments, and arguments without an equals sign say nothing. A mapping
that is written as arguments is read back as it was.
-/

namespace SchemaToJava.Config

/-- A key that an argument can tell: there is no equals sign in it and no dash in front. -/
structure BareKey (key : String) : Prop where
  equals : '=' ∉ key.toList
  dash : key.toList.head? ≠ some '-'

/-- An argument for a key. The key is what stands before the first equals sign, without the dashes
in front; the value is all that follows. -/
structure Assigns (argument key value : String) : Prop where
  bare : BareKey key
  text : ∃ dashes, argument = String.ofList (List.replicate dashes '-') ++ key ++ "=" ++ value

section Assigns

variable {argument key key' value value' : String}

theorem takeWhile_lead {lead rest : List Char} (h : '=' ∉ lead) :
    (lead ++ '=' :: rest).takeWhile (· != '=') = lead := by
  have hlead : ∀ c ∈ lead, (c != '=') = true := fun c hc =>
    bne_iff_ne.mpr fun heq => h (heq ▸ hc)
  rw [List.takeWhile_append_of_pos hlead, List.takeWhile_cons_of_neg (by decide), List.append_nil]

theorem dropWhile_lead {lead rest : List Char} (h : '=' ∉ lead) :
    (lead ++ '=' :: rest).dropWhile (· != '=') = '=' :: rest := by
  have hlead : ∀ c ∈ lead, (c != '=') = true := fun c hc =>
    bne_iff_ne.mpr fun heq => h (heq ▸ hc)
  rw [List.dropWhile_append_of_pos hlead, List.dropWhile_cons_of_neg (by decide)]

theorem BareKey.dropWhile_dashes (h : BareKey key) (dashes : Nat) :
    (List.replicate dashes '-' ++ key.toList).dropWhile (· == '-') = key.toList := by
  rw [List.dropWhile_append_of_pos fun c hc => by simp [List.eq_of_mem_replicate hc]]
  cases hcs : key.toList with
  | nil => rfl
  | cons c cs =>
    have hc : c ≠ '-' := by simpa [hcs] using h.dash
    exact List.dropWhile_cons_of_neg (by simpa using hc)

theorem keyValue?_of_assigns (h : Assigns argument key value) :
    keyValue? argument = some (key, value) := by
  obtain ⟨hbare, dashes, rfl⟩ := h
  have hlead : '=' ∉ List.replicate dashes '-' ++ key.toList := by
    intro hmem
    rcases List.mem_append.mp hmem with hdashes | hkey
    · exact absurd (List.eq_of_mem_replicate hdashes) (by decide)
    · exact hbare.equals hkey
  have htext : (String.ofList (List.replicate dashes '-') ++ key ++ "=" ++ value).toList =
      (List.replicate dashes '-' ++ key.toList) ++ '=' :: value.toList := by
    simp
  rw [keyValue?, htext, if_pos (by simp), takeWhile_lead hlead, dropWhile_lead hlead,
    hbare.dropWhile_dashes]
  simp

theorem keyValue?_eq_none (h : '=' ∉ argument.toList) : keyValue? argument = none := by
  rw [keyValue?, if_neg (by simpa using h)]

theorem exists_assigns (h : '=' ∈ argument.toList) :
    ∃ key value, Assigns argument key value := by
  obtain ⟨lead, rest, htext, hlead⟩ := List.eq_append_cons_of_mem h
  have hall : ∀ c ∈ lead.takeWhile (· == '-'), c = '-' := by
    intro c hc
    have hc := List.mem_takeWhile_imp hc
    exact beq_iff_eq.mp hc
  have hdashes := List.eq_replicate_of_mem hall
  refine ⟨String.ofList (lead.dropWhile (· == '-')), String.ofList rest, ⟨fun hmem => ?_, ?_⟩,
    (lead.takeWhile (· == '-')).length, ?_⟩
  · rw [String.toList_ofList] at hmem
    exact hlead ((List.dropWhile_suffix _).subset hmem)
  · rw [String.toList_ofList]
    intro hhead
    have hnot := List.head?_dropWhile_not (· == '-') lead
    simp [hhead] at hnot
  · apply String.toList_injective
    rw [← hdashes, htext]
    simp only [String.toList_append, String.toList_ofList, List.takeWhile_append_dropWhile]
    simp

theorem Assigns.unique (h : Assigns argument key value) (h' : Assigns argument key' value') :
    key = key' ∧ value = value' := by
  have heq := (keyValue?_of_assigns h).symm.trans (keyValue?_of_assigns h')
  simpa using heq

theorem Assigns.mem (h : Assigns argument key value) : '=' ∈ argument.toList := by
  obtain ⟨-, dashes, rfl⟩ := h
  simp

end Assigns

/-- The last argument for a key gives it the value. -/
def GivenLast (arguments : List String) (key value : String) : Prop :=
  ∃ before argument after, arguments = before ++ argument :: after ∧
    Assigns argument key value ∧ ∀ later ∈ after, ∀ other, ¬ Assigns later key other

def GivenBefore (arguments : List String) (key key' : String) : Prop :=
  ∃ before argument after value, arguments = before ++ argument :: after ∧
    Assigns argument key value ∧ ∀ earlier ∈ before, ∀ other, ¬ Assigns earlier key' other

section Arguments

variable {arguments : List String} {argument key key' value value' : String}

theorem ofArguments_concat_of_assigns (h : Assigns argument key value) :
    ofArguments (arguments ++ [argument]) = (ofArguments arguments).put key value := by
  rw [ofArguments, List.filterMap_append, List.filterMap_cons_some (keyValue?_of_assigns h),
    Entries.putAll, List.foldl_append]
  rfl

theorem ofArguments_concat_of_not_mem (h : '=' ∉ argument.toList) :
    ofArguments (arguments ++ [argument]) = ofArguments arguments := by
  rw [ofArguments, List.filterMap_append, List.filterMap_cons_none (keyValue?_eq_none h),
    List.filterMap_nil, List.append_nil, ofArguments]

theorem givenLast_concat : GivenLast (arguments ++ [argument]) key value ↔
    Assigns argument key value ∨
      (∀ other, ¬ Assigns argument key other) ∧ GivenLast arguments key value := by
  constructor
  · rintro ⟨before, a, after, hsplit, ha, hafter⟩
    rcases List.eq_nil_or_concat' after with rfl | ⟨after, last, rfl⟩
    · obtain ⟨-, hlast⟩ := List.append_inj' hsplit rfl
      cases hlast
      exact .inl ha
    · rw [← List.cons_append, ← List.append_assoc] at hsplit
      obtain ⟨hfront, hlast⟩ := List.append_inj' hsplit rfl
      cases hlast
      refine .inr ⟨hafter argument (List.mem_append_right _ List.mem_cons_self), before, a, after,
        hfront, ha, fun later hlater => ?_⟩
      exact hafter later (List.mem_append_left _ hlater)
  · rintro (h | ⟨hnot, before, a, after, rfl, ha, hafter⟩)
    · exact ⟨arguments, argument, [], rfl, h, fun _ hlater => nomatch hlater⟩
    · refine ⟨before, a, after ++ [argument], by simp, ha, fun later hlater => ?_⟩
      rcases List.mem_append.mp hlater with hlater | hlater
      · exact hafter later hlater
      · rwa [List.mem_singleton.mp hlater]

theorem lookup_ofArguments_iff :
    (ofArguments arguments).lookup key = some value ↔ GivenLast arguments key value := by
  -- From the end, since the last argument for a key decides.
  induction arguments using List.reverseRecOn with
  | nil =>
    constructor
    · intro h
      cases h
    · rintro ⟨before, argument, after, hsplit, -⟩
      simp at hsplit
  | append_singleton arguments argument ih =>
    rw [givenLast_concat]
    by_cases hmem : '=' ∈ argument.toList
    · obtain ⟨key', value', hassigns⟩ := exists_assigns hmem
      rw [ofArguments_concat_of_assigns hassigns, Entries.lookup_put]
      by_cases hkey : key = key'
      · subst hkey
        rw [if_pos rfl]
        constructor
        · intro h
          cases h
          exact .inl hassigns
        · rintro (h | ⟨hnot, -⟩)
          · rw [(hassigns.unique h).2]
          · exact absurd hassigns (hnot value')
      · have hnot : ∀ other, ¬ Assigns argument key other := fun other h =>
          hkey (h.unique hassigns).1
        rw [if_neg hkey, ih]
        exact ⟨fun h => .inr ⟨hnot, h⟩, fun h => (h.resolve_left (hnot value)).2⟩
    · have hnot : ∀ other, ¬ Assigns argument key other := fun other h => hmem h.mem
      rw [ofArguments_concat_of_not_mem hmem, ih]
      exact ⟨fun h => .inr ⟨hnot, h⟩, fun h => (h.resolve_left (hnot value)).2⟩

theorem nodup_keys_ofArguments (arguments : List String) : (ofArguments arguments).keys.Nodup := by
  induction arguments using List.reverseRecOn with
  | nil => exact List.nodup_nil
  | append_singleton arguments argument ih =>
    by_cases hmem : '=' ∈ argument.toList
    · obtain ⟨key, value, hassigns⟩ := exists_assigns hmem
      rw [ofArguments_concat_of_assigns hassigns]
      exact Entries.nodup_keys_put ih key value
    · rwa [ofArguments_concat_of_not_mem hmem]

theorem mem_keys_ofArguments : key ∈ (ofArguments arguments).keys ↔
    ∃ argument ∈ arguments, ∃ value, Assigns argument key value := by
  induction arguments using List.reverseRecOn with
  | nil =>
    constructor
    · intro h
      cases h
    · rintro ⟨argument, h, -⟩
      cases h
  | append_singleton arguments argument ih =>
    simp only [List.mem_append, List.mem_singleton, or_and_right, exists_or, exists_eq_left, ← ih]
    by_cases hmem : '=' ∈ argument.toList
    · obtain ⟨key', value', hassigns⟩ := exists_assigns hmem
      have hkey : (∃ value, Assigns argument key value) ↔ key = key' := by
        constructor
        · rintro ⟨value, h⟩
          exact (h.unique hassigns).1
        · rintro rfl
          exact ⟨value', hassigns⟩
      rw [ofArguments_concat_of_assigns hassigns, hkey, Entries.keys_put]
      split
      · rename_i hthere
        exact ⟨.inl, fun h => h.elim id fun heq => heq ▸ hthere⟩
      · rw [List.mem_append, List.mem_singleton]
    · have hnone : ¬ ∃ value, Assigns argument key value := fun ⟨_, h⟩ => hmem h.mem
      rw [ofArguments_concat_of_not_mem hmem]
      exact ⟨.inl, fun h => h.resolve_right hnone⟩

theorem GivenBefore.append (h : GivenBefore arguments key key') (more : List String) :
    GivenBefore (arguments ++ more) key key' := by
  obtain ⟨before, argument, after, value, rfl, hassigns, hbefore⟩ := h
  exact ⟨before, argument, after ++ more, value, by simp, hassigns, hbefore⟩

theorem givenBefore_of_new (hkey : key ∈ (ofArguments arguments).keys)
    (hnew : key' ∉ (ofArguments arguments).keys) : GivenBefore arguments key key' := by
  obtain ⟨argument, hmem, value, hassigns⟩ := mem_keys_ofArguments.mp hkey
  obtain ⟨before, after, rfl⟩ := List.append_of_mem hmem
  refine ⟨before, argument, after, value, rfl, hassigns, fun earlier hearlier other h => hnew ?_⟩
  exact mem_keys_ofArguments.mpr ⟨earlier, List.mem_append_left _ hearlier, other, h⟩

theorem pairwise_keys_ofArguments (arguments : List String) :
    (ofArguments arguments).keys.Pairwise (GivenBefore arguments) := by
  -- From the end: a further argument moves no key, and its own comes last if it is new.
  induction arguments using List.reverseRecOn with
  | nil => exact .nil
  | append_singleton arguments argument ih =>
    have hold := ih.imp fun h => GivenBefore.append h [argument]
    by_cases hmem : '=' ∈ argument.toList
    · obtain ⟨key, value, hassigns⟩ := exists_assigns hmem
      rw [ofArguments_concat_of_assigns hassigns, Entries.keys_put]
      split
      · exact hold
      · rename_i hnew
        refine List.pairwise_append.mpr ⟨hold, List.pairwise_singleton _ _, ?_⟩
        intro key' hkey' last hlast
        rw [List.mem_singleton.mp hlast]
        exact (givenBefore_of_new hkey' hnew).append [argument]
    · rwa [ofArguments_concat_of_not_mem hmem]

theorem ofArguments_filter (arguments : List String) :
    ofArguments (arguments.filter fun argument => '=' ∈ argument.toList) =
      ofArguments arguments := by
  rw [ofArguments, List.filterMap_filter, ofArguments]
  refine congrArg _ (congrArg (fun f => List.filterMap f arguments) (funext fun argument => ?_))
  by_cases hmem : '=' ∈ argument.toList
  · simp [hmem]
  · simp [hmem, keyValue?_eq_none hmem]

end Arguments

def asArgument (entry : String × String) : String := "--" ++ entry.1 ++ "=" ++ entry.2

theorem assigns_asArgument {key : String} (h : BareKey key) (value : String) :
    Assigns (asArgument (key, value)) key value :=
  ⟨h, 2, rfl⟩

/-- The mappings that can be read back are those with keys of their own that arguments can tell. -/
theorem ofArguments_asArgument_iff (entries : Entries String String) :
    ofArguments (entries.map asArgument) = entries ↔
      entries.keys.Nodup ∧ ∀ key ∈ entries.keys, BareKey key := by
  constructor
  · intro h
    rw [← h]
    refine ⟨nodup_keys_ofArguments _, fun key hkey => ?_⟩
    obtain ⟨_, _, _, hassigns⟩ := mem_keys_ofArguments.mp hkey
    exact hassigns.bare
  · rintro ⟨hnodup, hbare⟩
    have hread : (entries.map asArgument).filterMap keyValue? = entries := by
      rw [List.filterMap_map]
      refine (List.filterMap_congr fun entry hentry => ?_).trans List.filterMap_some
      have hkey : BareKey entry.1 := hbare _ (List.mem_map_of_mem hentry)
      exact keyValue?_of_assigns (assigns_asArgument hkey entry.2)
    rw [ofArguments, hread]
    exact Entries.putAll_of_nodup hnodup

example : ofArguments ([("", "=-"), ("a-", " b")].map asArgument) = [("", "=-"), ("a-", " b")] := by
  decide

/-- A key has the value that the last argument for it gives, the keys stand in the order of their
first arguments, arguments without an equals sign do not matter, and exactly the mappings whose keys
are all different and have no equals sign and no dash in front come back from their arguments. -/
theorem entries_of_arguments (arguments : List String) :
    (∀ key value, (ofArguments arguments).lookup key = some value ↔
      GivenLast arguments key value) ∧
    (ofArguments arguments).keys.Nodup ∧
    (ofArguments arguments).keys.Pairwise (GivenBefore arguments) ∧
    ofArguments (arguments.filter fun argument => '=' ∈ argument.toList) =
      ofArguments arguments ∧
    ∀ entries : Entries String String, ofArguments (entries.map asArgument) = entries ↔
      entries.keys.Nodup ∧ ∀ key ∈ entries.keys, BareKey key :=
  ⟨fun _ _ => lookup_ofArguments_iff, nodup_keys_ofArguments arguments,
    pairwise_keys_ofArguments arguments, ofArguments_filter arguments, ofArguments_asArgument_iff⟩

end SchemaToJava.Config
