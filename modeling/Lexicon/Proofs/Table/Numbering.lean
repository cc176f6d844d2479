import Lexicon.Proofs.Table.FirstFault
import Lexicon.Table.Numbering

namespace Lexicon

theorem TokenId.position_ofPosition {i : Nat} (h : i < 4294967296) :
    (TokenId.ofPosition i).position = i := by
  rw [TokenId.ofPosition, TokenId.position, UInt32.toNat_ofNat']
  exact Nat.mod_eq_of_lt h

theorem TokenId.position_injective : Function.Injective TokenId.position := by
  rintro ⟨v⟩ ⟨w⟩ h
  exact congrArg TokenId.mk (UInt32.toNat_inj.mp h)

namespace Entry

theorem byPosition_eq_mapIdx (tokens : List Definition) :
    byPosition tokens = tokens.mapIdx fun i d => ⟨.ofPosition i, d⟩ := by
  rw [byPosition, List.mapIdx_eq_zipIdx_map]

@[simp] theorem length_byPosition (tokens : List Definition) :
    (byPosition tokens).length = tokens.length := by
  rw [byPosition_eq_mapIdx, List.length_mapIdx]

@[simp] theorem map_definition_byPosition (tokens : List Definition) :
    (byPosition tokens).map (·.definition) = tokens := by
  rw [byPosition, List.map_map]
  exact List.zipIdx_map_fst 0 tokens

theorem getElem?_byPosition (tokens : List Definition) (i : Nat) :
    (byPosition tokens)[i]? = tokens[i]?.map fun d => ⟨.ofPosition i, d⟩ := by
  rw [byPosition_eq_mapIdx, List.getElem?_mapIdx]

theorem number_of_le {tokens : List Definition} (h : tokens.length ≤ Table.capacity) :
    number tokens = .ok (byPosition tokens) := by
  rw [number, if_neg (Nat.not_lt.mpr h)]

def lastNamed? (entries : List Entry) (name : String) : Option Entry :=
  entries.reverse.find? (·.definition.name == name)

theorem getElem?_index (entries : List Entry) (name : String) :
    (index entries)[name]? = (lastNamed? entries name).map (·.id) := by
  unfold lastNamed? index
  rw [← List.foldr_reverse]
  -- read backwards, every entry hides those that come after it
  induction entries.reverse with
  | nil => simp
  | cons e rest ih =>
    rw [List.foldr_cons, Std.HashMap.getElem?_insert, ih, List.find?_cons]
    by_cases h : e.definition.name = name
    · rw [if_pos (beq_iff_eq.mpr h), beq_iff_eq.mpr h]
      rfl
    · rw [if_neg (fun h' => h (beq_iff_eq.mp h')), beq_eq_false_iff_ne.mpr h]

theorem lastNamed?_eq_none_iff (entries : List Entry) (name : String) :
    lastNamed? entries name = none ↔ name ∉ entries.map (·.definition.name) := by
  simp only [lastNamed?, List.find?_eq_none, List.mem_reverse, beq_iff_eq, List.mem_map, not_exists,
    not_and]

theorem mem_of_lastNamed? {entries : List Entry} {name : String} {e : Entry}
    (h : lastNamed? entries name = some e) :
    e ∈ entries ∧ e.definition.name = name := by
  have htest := List.find?_some h
  exact ⟨List.mem_reverse.mp (List.mem_of_find?_eq_some h), beq_iff_eq.mp htest⟩

end Entry

def targetFault? (names : List String) (a : Alias) : Option SchemaError :=
  if a.target ∈ names then none else some (.unresolvedAlias a.name a.target)

theorem targetFault?_eq_none_iff (names : List String) (a : Alias) :
    targetFault? names a = none ↔ a.target ∈ names := by
  unfold targetFault?
  split
  · next h => exact iff_of_true rfl h
  · next h => exact iff_of_false nofun h

namespace AliasEntry

/-- An alias with the identifier of the last entry that has the name of its target. -/
def found? (entries : List Entry) (a : Alias) : Option AliasEntry :=
  (Entry.lastNamed? entries a.target).map fun e => ⟨e.id, a⟩

/-- All aliases are resolved, or the first one without a target is reported. -/
theorem resolve_outcome (entries : List Entry) (aliases : List Alias) :
    (resolve entries aliases = .ok (aliases.filterMap (found? entries)) ∧
        ∀ a ∈ aliases, targetFault? (entries.map (·.definition.name)) a = none) ∨
      ∃ e, resolve entries aliases = .error e ∧
        FirstFault (fun _ a => targetFault? (entries.map (·.definition.name)) a) aliases e := by
  apply mapM_outcome
  · intro a e h
    unfold targetFault? at h
    split at h
    · exact nomatch h
    · next hmem =>
      rw [← Option.some.inj h, resolveIn, Entry.getElem?_index,
        (Entry.lastNamed?_eq_none_iff ..).mpr hmem]
      rfl
  · intro a h
    rw [targetFault?_eq_none_iff] at h
    -- a name among those of the entries is the name of a last one
    have hsome : Entry.lastNamed? entries a.target ≠ none :=
      fun hnone => (Entry.lastNamed?_eq_none_iff ..).mp hnone h
    obtain ⟨e, he⟩ := Option.ne_none_iff_exists'.mp hsome
    rw [resolveIn, Entry.getElem?_index, found?, he]
    exact ⟨⟨e.id, a⟩, rfl, rfl⟩

theorem mem_of_found? {entries : List Entry} {a : Alias} {r : AliasEntry}
    (h : found? entries a = some r) :
    r.source = a ∧ ∃ e ∈ entries, e.definition.name = a.target ∧ r.id = e.id := by
  obtain ⟨e, he, rfl⟩ := Option.map_eq_some_iff.mp h
  obtain ⟨hmem, hname⟩ := Entry.mem_of_lastNamed? he
  exact ⟨rfl, e, hmem, hname, rfl⟩

/-- Resolving changes nothing about the aliases themselves. -/
theorem map_source_filterMap_found? {entries : List Entry} {aliases : List Alias}
    (h : ∀ a ∈ aliases, a.target ∈ entries.map (·.definition.name)) :
    (aliases.filterMap (found? entries)).map (·.source) = aliases := by
  induction aliases with
  | nil => rfl
  | cons a rest ih =>
    obtain ⟨ha, hrest⟩ := List.forall_mem_cons.mp h
    cases hr : found? entries a with
    | none =>
      rw [found?, Option.map_eq_none_iff, Entry.lastNamed?_eq_none_iff] at hr
      exact absurd ha hr
    | some r => rw [List.filterMap_cons, hr, List.map_cons, ih hrest, (mem_of_found? hr).1]

end AliasEntry

end Lexicon
