import Mathlib
import Lexicon.Proofs.Table.Acceptance
import Lexicon.Proofs.Table.Audit

namespace Lexicon

/-- A compiled table that has everything of its source in the right place. -/
structure Compiled.Represents (t : Table) (c : Compiled) : Prop where
  permuted : (c.entries.map (·.definition)).Perm t.definitions
  numbered : ∀ i (e : Entry), c.entries[i]? = some e → e.id.position = i ∧ i ≤ 0xFFFF
  front : (c.entries.take c.firstKeyword.position).map (·.definition) =
    t.definitions.filter (!·.isKeyword)
  keywords : ((c.entries.drop c.firstKeyword.position).map (·.definition)).Perm
    (t.definitions.filter (·.isKeyword))
  ascending : ((c.entries.drop c.firstKeyword.position).map (·.definition)).Pairwise
    fun a b => Text.utf8 a.name < Text.utf8 b.name
  boundary : c.firstKeyword.position = c.size - t.keywordCount ∧ t.keywordCount ≤ c.size
  aliases : c.aliases.map (·.source) = t.aliases
  targets : ∀ a ∈ c.aliases, ∀ i,
    (∃ e, c.entries[i]? = some e ∧ e.definition.name = a.source.target) ↔ i = a.id.position

namespace Compiled

theorem size_ofTable (t : Table) : (ofTable t).size = t.definitions.length := by
  rw [size, ofTable, Entry.length_byPosition, (Layout.tokens_perm t.definitions).length_eq]

variable {t : Table}

theorem position_firstKeyword_ofTable (h : t.definitions.length ≤ 65536) :
    (ofTable t).firstKeyword.position = (Layout.ofDefinitions t.definitions).firstKeyword := by
  have hsum := Layout.firstKeyword_add_keywords t.definitions
  exact TokenId.position_ofPosition (by omega)

theorem map_take_ofTable (h : t.definitions.length ≤ 65536) :
    ((ofTable t).entries.take (ofTable t).firstKeyword.position).map (·.definition) =
      t.definitions.filter (!·.isKeyword) := by
  rw [position_firstKeyword_ofTable h, List.map_take, map_definition_entries_ofTable,
    Layout.take_firstKeyword]

theorem map_drop_ofTable (h : t.definitions.length ≤ 65536) :
    ((ofTable t).entries.drop (ofTable t).firstKeyword.position).map (·.definition) =
      (Layout.ofDefinitions t.definitions).tokens.drop
        (Layout.ofDefinitions t.definitions).firstKeyword := by
  rw [position_firstKeyword_ofTable h, List.map_drop, map_definition_entries_ofTable]

theorem position_id_ofTable (h : t.definitions.length ≤ 65536) {i : Nat} {e : Entry}
    (he : (ofTable t).entries[i]? = some e) : e.id.position = i ∧ i ≤ 0xFFFF := by
  have hi : i < (ofTable t).size := (List.getElem?_eq_some_iff.mp he).1
  rw [size_ofTable] at hi
  obtain ⟨d, -, rfl⟩ := Option.map_eq_some_iff.mp ((Entry.getElem?_byPosition _ i).symm.trans he)
  exact ⟨TokenId.position_ofPosition (by omega), by omega⟩

/-- Where names are distinct, two positions with one name are one position. -/
theorem named_at_iff {entries : List Entry} (hnodup : (entries.map (·.definition.name)).Nodup)
    {i j : Nat} {e : Entry} (he : entries[j]? = some e) :
    (∃ e', entries[i]? = some e' ∧ e'.definition.name = e.definition.name) ↔ i = j := by
  constructor
  · rintro ⟨e', he', hname⟩
    have hi : i < (entries.map (·.definition.name)).length := by
      rw [List.length_map]
      exact (List.getElem?_eq_some_iff.mp he').1
    apply (List.getElem?_inj hi hnodup).mp
    rw [List.getElem?_map, List.getElem?_map, he', he, Option.map_some, Option.map_some, hname]
  · rintro rfl
    exact ⟨e, he, rfl⟩

/-- An alias that was found has the position of the one entry with its target's name. -/
theorem target_ofTable (h : t.Acceptable) {r : AliasEntry} (hr : r ∈ (ofTable t).aliases)
    (i : Nat) :
    (∃ e, (ofTable t).entries[i]? = some e ∧ e.definition.name = r.source.target) ↔
      i = r.id.position := by
  obtain ⟨a, -, hfound⟩ := List.mem_filterMap.mp hr
  obtain ⟨rfl, e, hmem, hname, hid⟩ := AliasEntry.mem_of_found? hfound
  obtain ⟨j, hj⟩ : ∃ j, (ofTable t).entries[j]? = some e := List.mem_iff_getElem?.mp hmem
  have hpos : r.id.position = j := by
    rw [hid]
    exact (position_id_ofTable h.withinCapacity hj).1
  have hnodup : ((ofTable t).entries.map (·.definition.name)).Nodup :=
    (names_ofTable_perm t).nodup_iff.mpr ((Table.acceptable_iff t).mp h).1.nodup_names
  rw [hpos, ← hname]
  exact named_at_iff hnodup hj

theorem size_ofTable_le (h : t.Acceptable) : (ofTable t).size ≤ 65536 := by
  rw [size_ofTable]
  exact h.withinCapacity

/-- The compiled form of an acceptable table has everything in its place. -/
theorem represents_ofTable (h : t.Acceptable) : (ofTable t).Represents t where
  permuted := by
    rw [map_definition_entries_ofTable]
    exact Layout.tokens_perm t.definitions
  numbered i e he := position_id_ofTable h.withinCapacity he
  front := map_take_ofTable h.withinCapacity
  keywords := by
    rw [map_drop_ofTable h.withinCapacity]
    exact Layout.keywords_perm t.definitions
  ascending := by
    rw [map_drop_ofTable h.withinCapacity]
    exact Layout.keywords_ascend t.definitions ((Table.acceptable_iff t).mp h).1.nodup_names
  boundary := by
    have hsum := Layout.firstKeyword_add_keywords t.definitions
    rw [size_ofTable, position_firstKeyword_ofTable h.withinCapacity, Table.keywordCount]
    omega
  aliases := by
    apply AliasEntry.map_source_filterMap_found?
    intro a ha
    exact (names_ofTable_perm t).mem_iff.mpr (h.resolved a ha)
  targets r hr i := target_ofTable h hr i

theorem Represents.boundaryInside {c : Compiled} (h : c.Represents t) : c.BoundaryInside := by
  rw [BoundaryInside, h.boundary.1]
  exact Nat.sub_le _ _

/-- The audit asks for nothing more, as long as the source has no name twice. -/
theorem Represents.audited {c : Compiled} (h : c.Represents t)
    (hnodup : (t.definitions.map (·.name)).Nodup) :
    c.Audited t := by
  have hsize : c.size = t.definitions.length := by
    rw [← h.permuted.length_eq, List.length_map, size]
  have hnames : c.entries.map (·.definition.name) =
      (c.entries.map (·.definition)).map (·.name) := by
    rw [List.map_map]
    rfl
  -- the boundary is what the keywords leave, and there are no more of them than entries
  obtain ⟨hboundary, hcount⟩ := h.boundary
  constructor
  case count => exact hsize
  case numbered =>
    intro i e he
    have hpos := (h.numbered i e he).1
    rw [TokenId.ofPosition, ← hpos, TokenId.position, UInt32.ofNat_toNat]
  case boundaryInside => exact h.boundaryInside
  case keywordCount =>
    rw [hboundary]
    omega
  case front =>
    intro e he
    have hmem := List.mem_map_of_mem (f := fun e : Entry => e.definition) he
    rw [h.front, List.mem_filter, Bool.not_eq_true'] at hmem
    exact hmem.2
  case keywords =>
    intro e he
    have hmem := List.mem_map_of_mem (f := fun e : Entry => e.definition) he
    rw [h.keywords.mem_iff, List.mem_filter] at hmem
    exact hmem.2
  case ascending =>
    have hascending := h.ascending
    rw [List.pairwise_map] at hascending
    exact hascending
  case authorOrder =>
    have hfront := congrArg (List.map (·.name)) h.front
    rw [List.map_map] at hfront
    exact hfront.symm
  case distinct =>
    rw [hnames, (h.permuted.map _).nodup_iff]
    exact hnodup
  case aliasCount => rw [← h.aliases, List.length_map]
  case targets =>
    intro a ha
    exact (h.targets a ha a.id.position).mpr rfl

end Compiled

/-- Whatever compiles is its source in final order, numbered by position, with every alias at its
target, and the audit finds nothing to report. -/
theorem Table.compile_represents {t : Table} {c : Compiled} (h : t.compile = .ok c) :
    c.Represents t ∧ c.audit t = .ok () := by
  obtain ⟨ha, rfl⟩ := (compile_eq_ok_iff t c).mp h
  have hrepr := Compiled.represents_ofTable ha
  exact ⟨hrepr, (Compiled.audit_eq_ok_iff t _).mpr
    (hrepr.audited ((acceptable_iff t).mp ha).1.nodup_names)⟩

/-- Four definitions, of which two keywords stand in front of an operator, and an alias. -/
def Table.mixed : Table where
  definitions := [⟨"while", .keyword, .idOnly, none⟩, ⟨"none", .plain, .idOnly, none⟩,
    ⟨"POD", .keyword, .idOnly, none⟩, ⟨"address", .operator, .memory, some "\"&\""⟩]
  aliases := [⟨"bit_and", "address", none⟩]

def Compiled.mixed : Compiled where
  entries := [⟨⟨0⟩, ⟨"none", .plain, .idOnly, none⟩⟩,
    ⟨⟨1⟩, ⟨"address", .operator, .memory, some "\"&\""⟩⟩, ⟨⟨2⟩, ⟨"POD", .keyword, .idOnly, none⟩⟩,
    ⟨⟨3⟩, ⟨"while", .keyword, .idOnly, none⟩⟩]
  aliases := [⟨⟨1⟩, ⟨"bit_and", "address", none⟩⟩]
  firstKeyword := ⟨2⟩

theorem Table.compile_mixed : Table.mixed.compile = .ok Compiled.mixed := by
  rw [compile_eq_ok_iff]
  exact ⟨⟨by decide, by decide, by decide, by decide⟩, by cbv⟩

theorem Table.mixed_represented :
    Table.mixed.compile = .ok Compiled.mixed ∧ Compiled.mixed.Represents Table.mixed ∧
      Compiled.mixed.audit Table.mixed = .ok () :=
  ⟨compile_mixed, compile_represents compile_mixed⟩

end Lexicon
