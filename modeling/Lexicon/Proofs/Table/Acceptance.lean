import Mathlib.Data.List.Induction
import Lexicon.Proofs.Table.Layout
import Lexicon.Proofs.Table.Numbering
import Lexicon.Proofs.Token.Name
import Lexicon.Table.Compiled

namespace Lexicon

namespace Table

def names (t : Table) : List String := t.definitions.map (·.name) ++ t.aliases.map (·.name)

/-- A table that can be compiled. -/
structure Acceptable (t : Table) : Prop where
  withinCapacity : t.definitions.length ≤ 65536
  wellFormed : ∀ name ∈ t.names, WellFormedName name
  distinct : t.names.Pairwise fun a b => ¬ SameIgnoringCase a b
  resolved : ∀ a ∈ t.aliases, a.target ∈ t.definitions.map (·.name)

/-- The earliest of some names that agrees with `name` up to case. -/
def earliestOwner? (names : List String) (name : String) : Option String :=
  names.find? fun n => decide (SameIgnoringCase n name)

/-- A name whose constant an earlier name has taken. -/
def collision? (names : List String) (name : String) : Option SchemaError :=
  (earliestOwner? names name).map fun first => .constantCollision first name (constantName name)

def definitionFault? : Judge Definition := fun earlier d =>
  if ¬ WellFormedName d.name then some (.invalidName d.name)
  else if d.name ∈ earlier.map (·.name) then some (.duplicateName d.name)
  else collision? (earlier.map (·.name)) d.name

def aliasFault? (definitions : List Definition) : Judge Alias := fun earlier a =>
  if ¬ WellFormedName a.name then some (.invalidName a.name)
  else if a.name ∈ definitions.map (·.name) then some (.aliasShadowsToken a.name)
  else if a.name ∈ earlier.map (·.name) then some (.duplicateAlias a.name)
  else collision? (definitions.map (·.name) ++ earlier.map (·.name)) a.name

/-- The names and the number of entries are in order; the targets of the aliases are another
matter. -/
structure Valid (t : Table) : Prop where
  withinCapacity : t.definitions.length ≤ 65536
  definitions : Faultless definitionFault? t.definitions
  aliases : Faultless (aliasFault? t.definitions) t.aliases

/-- The first offence of a table. -/
inductive FirstOffence (t : Table) : SchemaError → Prop
  | count : 65536 < t.definitions.length →
      FirstOffence t (.tooManyTokens t.definitions.length 65535)
  | ofDefinition {e : SchemaError} : t.definitions.length ≤ 65536 →
      FirstFault definitionFault? t.definitions e → FirstOffence t e
  | ofAlias {e : SchemaError} : t.definitions.length ≤ 65536 →
      Faultless definitionFault? t.definitions →
      FirstFault (aliasFault? t.definitions) t.aliases e → FirstOffence t e
  | ofTarget {e : SchemaError} : t.Valid →
      FirstFault (fun _ a => targetFault? (t.definitions.map (·.name)) a) t.aliases e →
      FirstOffence t e

/-! ### What the checking loops keep -/

/-- What is kept of the earlier entries stands for these names, and for these owners of
constants. -/
structure Seen.Keeps (seen : Seen) (names owners : List String) : Prop where
  contains_iff : ∀ name, seen.names.contains name = true ↔ name ∈ names
  owner : ∀ name, seen.owners[constantName name]? = earliestOwner? owners name

theorem Seen.keeps_empty : Seen.Keeps ⟨∅, ∅⟩ [] [] where
  contains_iff := by simp
  owner := by simp [earliestOwner?]

/-- One more name is kept, and owns its constant if no earlier name does. -/
theorem Seen.Keeps.insert {seen : Seen} {names owners : List String} (h : seen.Keeps names owners)
    {name : String}
    (hfree : earliestOwner? owners name = none) :
    Seen.Keeps ⟨seen.names.insert name, seen.owners.insert (constantName name) name⟩
      (names ++ [name]) (owners ++ [name]) where
  contains_iff n := by
    rw [Std.HashSet.contains_insert, Bool.or_eq_true, beq_iff_eq, h.contains_iff, List.mem_append,
      List.mem_singleton, or_comm, eq_comm]
  owner n := by
    rw [Std.HashMap.getElem?_insert, h.owner, earliestOwner?, earliestOwner?, List.find?_append,
      List.find?_singleton]
    by_cases hn : SameIgnoringCase name n
    · -- whoever agrees with `n` agrees with `name`, so no earlier owner does
      have hnone : owners.find? (fun m => decide (SameIgnoringCase m n)) = none := by
        rw [earliestOwner?, List.find?_eq_none] at hfree
        rw [List.find?_eq_none]
        intro m hm hmn
        exact hfree m hm (decide_eq_true ((of_decide_eq_true hmn).trans hn.symm))
      rw [if_pos (beq_iff_eq.mpr ((constantName_eq_iff name n).mpr hn)), hnone,
        if_pos (decide_eq_true hn)]
      rfl
    · rw [if_neg (fun h' => hn ((constantName_eq_iff name n).mp (beq_iff_eq.mp h'))),
        if_neg (fun h' => hn (of_decide_eq_true h')), Option.or_none]

theorem Seen.Keeps.claimConstant_error {seen : Seen} {names owners : List String}
    (h : seen.Keeps names owners)
    {name first : String} (ho : earliestOwner? owners name = some first) :
    claimConstant seen.owners name =
      .error (.constantCollision first name (constantName name)) := by
  rw [claimConstant, h.owner, ho]

theorem Seen.Keeps.claimConstant_ok {seen : Seen} {names owners : List String}
    (h : seen.Keeps names owners)
    {name : String} (ho : earliestOwner? owners name = none) :
    claimConstant seen.owners name = .ok (seen.owners.insert (constantName name) name) := by
  rw [claimConstant, h.owner, ho]

/-- The loop over the definitions keeps the names it has seen, which are also the owners of all
constants so far. -/
theorem checkDefinition_follows :
    Follows checkDefinition definitionFault?
      fun earlier seen => seen.Keeps (earlier.map (·.name)) (earlier.map (·.name)) where
  -- the tests of the loop are those of the judgement, in the same order
  stops earlier seen d e hseen he := by
    unfold definitionFault? at he
    unfold checkDefinition
    by_cases hw : WellFormedName d.name
    · rw [if_neg (not_not_intro hw)] at he
      rw [(isWellFormedName_iff _).mpr hw]
      by_cases hm : d.name ∈ earlier.map (·.name)
      · rw [if_pos hm] at he
        rw [(hseen.contains_iff _).mpr hm, ← Option.some.inj he]
        rfl
      · rw [if_neg hm] at he
        obtain ⟨first, ho, rfl⟩ := Option.map_eq_some_iff.mp he
        rw [Bool.eq_false_iff.mpr (mt (hseen.contains_iff _).mp hm), hseen.claimConstant_error ho]
        rfl
    · rw [if_pos hw] at he
      rw [Bool.eq_false_iff.mpr (mt (isWellFormedName_iff _).mp hw), ← Option.some.inj he]
      rfl
  goesOn earlier seen d hseen hd := by
    unfold definitionFault? at hd
    unfold checkDefinition
    by_cases hw : WellFormedName d.name
    · rw [if_neg (not_not_intro hw)] at hd
      by_cases hm : d.name ∈ earlier.map (·.name)
      · rw [if_pos hm] at hd
        exact nomatch hd
      · rw [if_neg hm, collision?, Option.map_eq_none_iff] at hd
        rw [(isWellFormedName_iff _).mpr hw,
          Bool.eq_false_iff.mpr (mt (hseen.contains_iff _).mp hm), hseen.claimConstant_ok hd]
        -- the newcomer is inserted as a name and as the owner of its constant
        refine ⟨_, rfl, ?_⟩
        rw [List.map_append]
        exact hseen.insert hd
    · rw [if_pos hw] at hd
      exact nomatch hd

/-- The loop over the aliases keeps the names of the aliases alone, but the owners of all
constants. -/
theorem checkAlias_follows (definitions : List Definition) {tokens : Std.HashSet String}
    (htokens : ∀ name, tokens.contains name = true ↔ name ∈ definitions.map (·.name)) :
    Follows (checkAlias tokens) (aliasFault? definitions)
      fun earlier seen => seen.Keeps (earlier.map (·.name))
        (definitions.map (·.name) ++ earlier.map (·.name)) where
  stops earlier seen a e hseen he := by
    -- the checks are made in the order in which the faults are looked for
    unfold aliasFault? at he
    unfold checkAlias
    by_cases hw : WellFormedName a.name
    · rw [if_neg (not_not_intro hw)] at he
      rw [(isWellFormedName_iff _).mpr hw]
      by_cases ht : a.name ∈ definitions.map (·.name)
      · rw [if_pos ht] at he
        rw [(htokens _).mpr ht, ← Option.some.inj he]
        rfl
      · rw [if_neg ht] at he
        rw [Bool.eq_false_iff.mpr (mt (htokens _).mp ht)]
        by_cases hm : a.name ∈ earlier.map (·.name)
        · rw [if_pos hm] at he
          rw [(hseen.contains_iff _).mpr hm, ← Option.some.inj he]
          rfl
        · rw [if_neg hm] at he
          obtain ⟨first, ho, rfl⟩ := Option.map_eq_some_iff.mp he
          rw [Bool.eq_false_iff.mpr (mt (hseen.contains_iff _).mp hm), hseen.claimConstant_error ho]
          rfl
    · rw [if_pos hw] at he
      rw [Bool.eq_false_iff.mpr (mt (isWellFormedName_iff _).mp hw), ← Option.some.inj he]
      rfl
  goesOn earlier seen a hseen ha := by
    unfold aliasFault? at ha
    unfold checkAlias
    by_cases hw : WellFormedName a.name
    · rw [if_neg (not_not_intro hw)] at ha
      by_cases ht : a.name ∈ definitions.map (·.name)
      · rw [if_pos ht] at ha
        exact nomatch ha
      · rw [if_neg ht] at ha
        by_cases hm : a.name ∈ earlier.map (·.name)
        · rw [if_pos hm] at ha
          exact nomatch ha
        · rw [if_neg hm, collision?, Option.map_eq_none_iff] at ha
          rw [(isWellFormedName_iff _).mpr hw, Bool.eq_false_iff.mpr (mt (htokens _).mp ht),
            Bool.eq_false_iff.mpr (mt (hseen.contains_iff _).mp hm), hseen.claimConstant_ok ha]
          -- what has been seen grows by the name of the alias
          refine ⟨_, rfl, ?_⟩
          rw [List.map_append, ← List.append_assoc]
          exact hseen.insert ha
    · rw [if_pos hw] at ha
      exact nomatch ha

/-! ### Faultless entries, without their order -/

theorem collision?_eq_none_iff (names : List String) (name : String) :
    collision? names name = none ↔ ∀ n ∈ names, ¬ SameIgnoringCase n name := by
  simp only [collision?, earliestOwner?, Option.map_eq_none_iff, List.find?_eq_none,
    decide_eq_true_eq]

theorem definitionFault?_eq_none_iff (earlier : List Definition) (d : Definition) :
    definitionFault? earlier d = none ↔
      WellFormedName d.name ∧ ∀ n ∈ earlier.map (·.name), ¬ SameIgnoringCase n d.name := by
  unfold definitionFault?
  split_ifs with hw hm
  · exact iff_of_false nofun (fun h => h.2 _ hm (.refl _))
  · rw [collision?_eq_none_iff, and_iff_right hw]
  · exact iff_of_false nofun (fun h => hw h.1)

theorem aliasFault?_eq_none_iff (definitions : List Definition) (earlier : List Alias) (a : Alias) :
    aliasFault? definitions earlier a = none ↔ WellFormedName a.name ∧
      ∀ n ∈ definitions.map (·.name) ++ earlier.map (·.name), ¬ SameIgnoringCase n a.name := by
  unfold aliasFault?
  split_ifs with hw ht hm
  · exact iff_of_false nofun (fun h => h.2 _ (List.mem_append_left _ ht) (.refl _))
  · exact iff_of_false nofun (fun h => h.2 _ (List.mem_append_right _ hm) (.refl _))
  · rw [collision?_eq_none_iff, and_iff_right hw]
  · exact iff_of_false nofun (fun h => hw h.1)

/-- If each member is only compared with the names taken before it, then a list is faultless exactly
if no two of all these names agree. -/
theorem faultless_iff_pairwise {α : Type} {judge : Judge α} (name : α → String)
    {taken : List String} (htaken : taken.Pairwise fun a b => ¬ SameIgnoringCase a b)
    (hjudge : ∀ earlier x, judge earlier x = none ↔
      WellFormedName (name x) ∧ ∀ n ∈ taken ++ earlier.map name, ¬ SameIgnoringCase n (name x))
    (xs : List α) :
    Faultless judge xs ↔ (∀ n ∈ xs.map name, WellFormedName n) ∧
      (taken ++ xs.map name).Pairwise fun a b => ¬ SameIgnoringCase a b := by
  -- the last member is the one that is judged against all others
  induction xs using List.reverseRecOn with
  | nil => simpa [faultless_nil] using htaken
  | append_singleton xs x ih =>
    have hlast : (taken ++ xs.map name ++ [name x]).Pairwise (fun a b => ¬ SameIgnoringCase a b) ↔
        (taken ++ xs.map name).Pairwise (fun a b => ¬ SameIgnoringCase a b) ∧
          ∀ n ∈ taken ++ xs.map name, ¬ SameIgnoringCase n (name x) := by
      rw [List.pairwise_append]
      simp only [List.pairwise_singleton, true_and, List.mem_singleton, forall_eq]
    have hwell : (∀ n ∈ xs.map name ++ [name x], WellFormedName n) ↔
        (∀ n ∈ xs.map name, WellFormedName n) ∧ WellFormedName (name x) := by
      simp only [List.forall_mem_append, List.forall_mem_singleton]
    rw [faultless_concat_iff, ih, hjudge, List.map_append, ← List.append_assoc]
    change _ ↔ (∀ n ∈ xs.map name ++ [name x], _) ∧ (taken ++ xs.map name ++ [name x]).Pairwise _
    rw [hlast, hwell]
    tauto

/-- Validity does not depend on the order in which names are looked at. -/
theorem valid_iff (t : Table) :
    t.Valid ↔ t.definitions.length ≤ 65536 ∧ (∀ name ∈ t.names, WellFormedName name) ∧
      t.names.Pairwise fun a b => ¬ SameIgnoringCase a b := by
  have hdefinitions :=
    faultless_iff_pairwise (·.name) List.Pairwise.nil definitionFault?_eq_none_iff t.definitions
  -- the names of a table are those of its definitions and those of its aliases
  have hwell : (∀ name ∈ t.names, WellFormedName name) ↔
      (∀ n ∈ t.definitions.map (·.name), WellFormedName n) ∧
        ∀ n ∈ t.aliases.map (·.name), WellFormedName n :=
    List.forall_mem_append
  constructor
  · rintro ⟨hc, hd, ha⟩
    obtain ⟨hwd, hpd⟩ := hdefinitions.mp hd
    obtain ⟨hwa, hp⟩ :=
      (faultless_iff_pairwise (·.name) hpd (aliasFault?_eq_none_iff t.definitions) t.aliases).mp ha
    exact ⟨hc, hwell.mpr ⟨hwd, hwa⟩, hp⟩
  · rintro ⟨hc, hw, hp⟩
    obtain ⟨hwd, hwa⟩ := hwell.mp hw
    have hpd := (List.pairwise_append.mp hp).1
    have haliases :=
      faultless_iff_pairwise (·.name) hpd (aliasFault?_eq_none_iff t.definitions) t.aliases
    exact ⟨hc, hdefinitions.mpr ⟨hwd, hpd⟩, haliases.mpr ⟨hwa, hp⟩⟩

theorem acceptable_iff (t : Table) :
    t.Acceptable ↔
      t.Valid ∧ ∀ a ∈ t.aliases, targetFault? (t.definitions.map (·.name)) a = none := by
  simp only [valid_iff, targetFault?_eq_none_iff]
  exact ⟨fun h => ⟨⟨h.withinCapacity, h.wellFormed, h.distinct⟩, h.resolved⟩,
    fun h => ⟨h.1.1, h.1.2.1, h.1.2.2, h.2⟩⟩

/-- No two definitions of a valid table have one name. -/
theorem Valid.nodup_names {t : Table} (h : t.Valid) : (t.definitions.map (·.name)).Nodup := by
  have hp := (List.pairwise_append.mp ((valid_iff t).mp h).2.2).1
  rw [List.nodup_iff_pairwise_ne]
  apply hp.imp
  intro a b hab he
  rw [he] at hab
  exact hab (.refl b)

/-! ### The outcome of a compilation -/

/-- Validation reports nothing, or the first offence. -/
theorem validate_outcome (t : Table) :
    (t.validate = .ok () ∧ t.Valid) ∨
      ∃ e, t.validate = .error e ∧ t.FirstOffence e ∧ ¬ t.Valid := by
  unfold validate
  by_cases hc : capacity < t.definitions.length
  · rw [if_pos hc]
    exact Or.inr ⟨_, rfl, .count hc, fun h => absurd h.withinCapacity (Nat.not_le.mpr hc)⟩
  rw [if_neg hc]
  have hle : t.definitions.length ≤ 65536 := Nat.not_lt.mp hc
  rcases checkDefinition_follows.foldlM t.definitions Seen.keeps_empty (faultless_nil _) with
    ⟨seen, hfold, hseen, hdefs⟩ | ⟨e, hfold, he⟩
  · rw [hfold]
    -- the second loop starts with no names, but with the owners that the first one leaves
    have hstart : Seen.Keeps ⟨∅, seen.owners⟩ (([] : List Alias).map (·.name))
        (t.definitions.map (·.name) ++ ([] : List Alias).map (·.name)) :=
      ⟨Seen.keeps_empty.contains_iff, by simpa using hseen.owner⟩
    rcases (checkAlias_follows t.definitions hseen.contains_iff).foldlM t.aliases hstart
      (faultless_nil _) with
      ⟨seen', hfold', -, haliases⟩ | ⟨e, hfold', he⟩
    · refine Or.inl ⟨?_, hle, hdefs, haliases⟩
      change (t.aliases.foldlM (checkAlias seen.names) ⟨∅, seen.owners⟩ >>= fun _ => pure ()) = _
      rw [hfold']
      rfl
    · refine Or.inr ⟨e, ?_, .ofAlias hle hdefs he, fun h => he.not_faultless h.aliases⟩
      change (t.aliases.foldlM (checkAlias seen.names) ⟨∅, seen.owners⟩ >>= fun _ => pure ()) = _
      rw [hfold']
      rfl
  · rw [hfold]
    exact Or.inr ⟨e, rfl, .ofDefinition hle he, fun h => he.not_faultless h.definitions⟩

theorem number_tokens {t : Table} (h : t.Valid) :
    Entry.number (Layout.ofDefinitions t.definitions).tokens =
      .ok (Entry.byPosition (Layout.ofDefinitions t.definitions).tokens) := by
  apply Entry.number_of_le
  rw [(Layout.tokens_perm t.definitions).length_eq]
  exact h.withinCapacity

end Table

def Compiled.ofTable (t : Table) : Compiled where
  entries := Entry.byPosition (Layout.ofDefinitions t.definitions).tokens
  aliases := t.aliases.filterMap
    (AliasEntry.found? (Entry.byPosition (Layout.ofDefinitions t.definitions).tokens))
  firstKeyword := .ofPosition (Layout.ofDefinitions t.definitions).firstKeyword

theorem Compiled.map_definition_entries_ofTable (t : Table) :
    (ofTable t).entries.map (·.definition) = (Layout.ofDefinitions t.definitions).tokens :=
  Entry.map_definition_byPosition _

theorem Compiled.names_ofTable_perm (t : Table) :
    ((ofTable t).entries.map (·.definition.name)).Perm (t.definitions.map (·.name)) := by
  have h := (Layout.tokens_perm t.definitions).map (·.name)
  rw [← map_definition_entries_ofTable t, List.map_map] at h
  exact h

namespace Table

/-- The final order has the same names, so targets are judged alike before and after it. -/
theorem targetFault?_ofTable (t : Table) (a : Alias) :
    targetFault? ((Compiled.ofTable t).entries.map (·.definition.name)) a =
      targetFault? (t.definitions.map (·.name)) a := by
  simp only [targetFault?, (Compiled.names_ofTable_perm t).mem_iff]

theorem compile_of_valid {t : Table} (hv : t.validate = .ok ()) (hvalid : t.Valid) :
    t.compile = (AliasEntry.resolve (Compiled.ofTable t).entries t.aliases).map
      fun aliases => { Compiled.ofTable t with aliases } := by
  unfold compile
  rw [hv]
  change (Entry.number (Layout.ofDefinitions t.definitions).tokens >>= _) = _
  rw [number_tokens hvalid]
  rfl

/-- A table compiles to its definitions in final order, numbered, with its aliases found among them;
or its first offence is reported. -/
theorem compile_outcome (t : Table) :
    (t.compile = .ok (Compiled.ofTable t) ∧ t.Acceptable) ∨
      ∃ e, t.compile = .error e ∧ t.FirstOffence e ∧ ¬ t.Acceptable := by
  rcases validate_outcome t with ⟨hv, hvalid⟩ | ⟨e, hv, hfirst, hinvalid⟩
  · -- only the targets are left to fail, and they are looked up among the same names
    have hresolve := AliasEntry.resolve_outcome (Compiled.ofTable t).entries t.aliases
    simp only [targetFault?_ofTable] at hresolve
    rw [compile_of_valid hv hvalid]
    rcases hresolve with ⟨hr, hnone⟩ | ⟨e, hr, hfirst⟩
    · rw [hr]
      exact Or.inl ⟨rfl, (acceptable_iff t).mpr ⟨hvalid, hnone⟩⟩
    · rw [hr]
      refine Or.inr ⟨e, rfl, .ofTarget hvalid hfirst, fun h => ?_⟩
      exact hfirst.not_faultless ((faultless_iff_forall _ _).mpr ((acceptable_iff t).mp h).2)
  · refine Or.inr ⟨e, ?_, hfirst, fun h => hinvalid ((acceptable_iff t).mp h).1⟩
    unfold compile
    rw [hv]
    rfl

theorem compile_eq_ok_iff (t : Table) (c : Compiled) :
    t.compile = .ok c ↔ t.Acceptable ∧ c = Compiled.ofTable t := by
  rcases compile_outcome t with ⟨hc, ha⟩ | ⟨e, hc, -, hna⟩
  · rw [hc, and_iff_right ha, Except.ok.injEq, eq_comm]
  · rw [hc]
    exact iff_of_false nofun (fun h => hna h.1)

/-- There is one first offence at most. -/
theorem FirstOffence.unique {t : Table} {e e' : SchemaError} (h : t.FirstOffence e)
    (h' : t.FirstOffence e') :
    e = e' := by
  -- an offence of one kind rules out those that are looked for earlier or later
  cases h with
  | count hc =>
    cases h' with
    | count _ => rfl
    | ofDefinition hc' _ => omega
    | ofAlias hc' _ _ => omega
    | ofTarget hv _ => exact absurd hv.withinCapacity (Nat.not_le.mpr hc)
  | ofDefinition hc hd =>
    cases h' with
    | count hc' => omega
    | ofDefinition _ hd' => exact hd.unique hd'
    | ofAlias _ hf _ => exact absurd hf hd.not_faultless
    | ofTarget hv _ => exact absurd hv.definitions hd.not_faultless
  | ofAlias hc hf ha =>
    cases h' with
    | count hc' => omega
    | ofDefinition _ hd' => exact absurd hf hd'.not_faultless
    | ofAlias _ _ ha' => exact ha.unique ha'
    | ofTarget hv _ => exact absurd hv.aliases ha.not_faultless
  | ofTarget hv ht =>
    cases h' with
    | count hc' => exact absurd hv.withinCapacity (Nat.not_le.mpr hc')
    | ofDefinition _ hd' => exact absurd hv.definitions hd'.not_faultless
    | ofAlias _ _ ha' => exact absurd hv.aliases ha'.not_faultless
    | ofTarget _ ht' => exact ht.unique ht'

/-- An acceptable table has no offence to report. -/
theorem FirstOffence.not_acceptable {t : Table} {e : SchemaError} (h : t.FirstOffence e) :
    ¬ t.Acceptable := by
  intro ha
  obtain ⟨hv, hnone⟩ := (acceptable_iff t).mp ha
  cases h with
  | count hc => exact absurd hv.withinCapacity (Nat.not_le.mpr hc)
  | ofDefinition _ hd => exact hd.not_faultless hv.definitions
  | ofAlias _ _ haf => exact haf.not_faultless hv.aliases
  | ofTarget _ ht => exact ht.not_faultless ((faultless_iff_forall _ _).mpr hnone)

/-- A table compiles exactly if it is acceptable, and what is reported otherwise is exactly its
first offence. The length is checked a second time when identifiers are given, which never fails for
a table that passed validation. -/
theorem compile_accepts_or_reports (t : Table) :
    ((∃ c, t.compile = .ok c) ↔ t.Acceptable) ∧ (∀ e, t.compile = .error e ↔ t.FirstOffence e) ∧
      ¬ (t.validate = .ok () ∧
        ∃ e, Entry.number (Layout.ofDefinitions t.definitions).tokens = .error e) := by
  refine ⟨?_, ?_, ?_⟩
  · simp only [compile_eq_ok_iff, exists_and_left, exists_eq, and_true]
  · intro e
    rcases compile_outcome t with ⟨hc, ha⟩ | ⟨e', hc, hfirst, -⟩
    · rw [hc]
      exact iff_of_false nofun (fun h => h.not_acceptable ha)
    · rw [hc]
      constructor
      · rintro ⟨⟩
        exact hfirst
      · intro h
        rw [hfirst.unique h]
  · rintro ⟨hok, e, he⟩
    -- the final order has as many definitions as validation has counted
    rcases validate_outcome t with ⟨-, hvalid⟩ | ⟨e', hv, -⟩
    · rw [number_tokens hvalid] at he
      exact nomatch he
    · rw [hv] at hok
      exact nomatch hok

end Table

end Lexicon
