import Mathlib
import Lexicon.Proofs.Table.Compilation

/-! Identifiers looked up by short name. One search takes the first entry of a name, and the aliases
after all entries; the one behind the resolution of aliases takes the last entry. In a compiled
table no name stands for two entries, so both find the same, and a name is found exactly if the
table declares it. -/
namespace Lexicon

/-- A search by key finds a member exactly if it has the key, where no two members share one. -/
theorem find?_key_eq_some_iff {α : Type} {key : α → String} {xs : List α} (h : (xs.map key).Nodup)
    {name : String} {x : α} :
    xs.find? (key · == name) = some x ↔ x ∈ xs ∧ key x = name := by
  constructor
  · intro hfind
    have hkey := List.find?_some hfind
    exact ⟨List.mem_of_find?_eq_some hfind, beq_iff_eq.mp hkey⟩
  · rintro ⟨hx, rfl⟩
    have hsome : xs.find? (key · == key x) ≠ none := by
      intro hnone
      exact List.find?_eq_none.mp hnone x hx (beq_self_eq_true (key x))
    obtain ⟨y, hy⟩ := Option.ne_none_iff_exists'.mp hsome
    have hkey := List.find?_some hy
    have hyx : y = x :=
      List.inj_on_of_nodup_map h (List.mem_of_find?_eq_some hy) hx (beq_iff_eq.mp hkey)
    rw [hy, hyx]

theorem Entry.lastNamed?_eq_find? {entries : List Entry}
    (h : (entries.map (·.definition.name)).Nodup) (name : String) :
    lastNamed? entries name = entries.find? (·.definition.name == name) := by
  -- searching from the end is searching the reversed list, which has the same members
  have hreverse : (entries.reverse.map (·.definition.name)).Nodup := by
    rw [List.map_reverse, List.nodup_reverse]
    exact h
  ext e
  rw [lastNamed?, find?_key_eq_some_iff hreverse, find?_key_eq_some_iff h, List.mem_reverse]

/-- All short names of an acceptable table are different. -/
theorem Table.Acceptable.nodup_names {t : Table} (h : t.Acceptable) : t.names.Nodup := by
  rw [List.nodup_iff_pairwise_ne]
  apply h.distinct.imp
  rintro a b hab rfl
  exact hab (.refl a)

namespace Compiled

def names (c : Compiled) : List String :=
  c.entries.map (·.definition.name) ++ c.aliases.map (·.source.name)

/-- Only names that neither an entry nor an alias has are not found. -/
theorem idOf?_eq_none_iff (c : Compiled) (name : String) :
    c.idOf? name = none ↔ name ∉ c.names := by
  unfold idOf? names
  rw [List.mem_append, not_or]
  cases hfind : c.entries.find? (·.definition.name == name) with
  | some e =>
    have hkey := List.find?_some hfind
    have hmem : name ∈ c.entries.map (·.definition.name) :=
      List.mem_map.mpr ⟨e, List.mem_of_find?_eq_some hfind, beq_iff_eq.mp hkey⟩
    exact iff_of_false nofun (fun h => h.1 hmem)
  | none =>
    simp only [List.find?_eq_none, beq_iff_eq] at hfind
    simp only [Option.map_eq_none_iff, List.find?_eq_none, beq_iff_eq, List.mem_map, not_exists,
      not_and]
    exact ⟨fun h => ⟨hfind, h⟩, fun h => h.2⟩

/-- Where names are different, it makes no difference what is looked through first. -/
theorem idOf?_eq_some_iff {c : Compiled} (h : c.names.Nodup) (name : String) (id : TokenId) :
    c.idOf? name = some id ↔
      (∃ e ∈ c.entries, e.definition.name = name ∧ e.id = id) ∨
        ∃ a ∈ c.aliases, a.source.name = name ∧ a.id = id := by
  obtain ⟨hentries, haliases, hdisjoint⟩ := List.nodup_append'.mp h
  unfold idOf?
  cases hfind : c.entries.find? (·.definition.name == name) with
  | some e =>
    obtain ⟨he, rfl⟩ := (find?_key_eq_some_iff hentries).mp hfind
    constructor
    · rintro ⟨⟩
      exact .inl ⟨e, he, rfl, rfl⟩
    · rintro (⟨e', he', hname, rfl⟩ | ⟨a, ha, hname, -⟩)
      · rw [List.inj_on_of_nodup_map hentries he he' hname.symm]
      · -- the name of an entry is no name of an alias
        have hshared := hdisjoint (List.mem_map_of_mem he)
        rw [← hname] at hshared
        exact absurd (List.mem_map_of_mem ha) hshared
  | none =>
    simp only [List.find?_eq_none, beq_iff_eq] at hfind
    rw [Option.map_eq_some_iff]
    constructor
    · rintro ⟨a, ha, hid⟩
      obtain ⟨hmem, hname⟩ := (find?_key_eq_some_iff haliases).mp ha
      exact .inr ⟨a, hmem, hname, hid⟩
    · rintro (⟨e, he, hname, -⟩ | ⟨a, ha, hname, hid⟩)
      · exact absurd hname (hfind e he)
      · exact ⟨a, (find?_key_eq_some_iff haliases).mpr ⟨ha, hname⟩, hid⟩

/-- A name leads to a position: it is the short name of the definition there, or of an alias for
it. -/
def LeadsTo (t : Table) (c : Compiled) (name : String) (i : Nat) : Prop :=
  ∃ e, c.entries[i]? = some e ∧
    (e.definition.name = name ∨ ∃ a ∈ t.aliases, a.name = name ∧ a.target = e.definition.name)

/-- Every short name of a table stands for one identifier in the compiled table. -/
structure Resolves (t : Table) (c : Compiled) : Prop where
  found : ∀ name id, c.idOf? name = some id ↔ c.LeadsTo t name id.position
  missing : ∀ name, c.idOf? name = none ↔
    name ∉ t.definitions.map (·.name) ∧ name ∉ t.aliases.map (·.name)
  unique : ∀ name ∈ t.names, ∃! i, c.LeadsTo t name i
  targets : ∀ a ∈ t.aliases, ∃ id, c.idOf? a.name = some id ∧ c.idOf? a.target = some id
  distinct : ∀ d ∈ t.definitions, ∀ d' ∈ t.definitions, c.idOf? d.name = c.idOf? d'.name → d = d'
  /-- Which of several entries a search prefers does not matter. -/
  index : ∀ name, (Entry.index c.entries)[name]? =
    if name ∈ t.definitions.map (·.name) then c.idOf? name else none

namespace Represents

variable {t : Table} {c : Compiled} (h : c.Represents t)
include h

theorem map_name_entries :
    (c.entries.map (·.definition.name)).Perm (t.definitions.map (·.name)) := by
  have hmap := h.permuted.map (·.name)
  rw [List.map_map] at hmap
  exact hmap

theorem names_perm : c.names.Perm t.names := by
  have haliases : c.aliases.map (·.source.name) = t.aliases.map (·.name) := by
    rw [← h.aliases, List.map_map]
    rfl
  rw [names, haliases]
  exact h.map_name_entries.append_right _

/-- The members of the compiled table that have a name are the ways for the name to lead
somewhere. -/
theorem leadsTo_iff (name : String) (id : TokenId) : c.LeadsTo t name id.position ↔
    (∃ e ∈ c.entries, e.definition.name = name ∧ e.id = id) ∨
      ∃ a ∈ c.aliases, a.source.name = name ∧ a.id = id := by
  constructor
  · rintro ⟨e, he, hname | ⟨a, ha, hname, htarget⟩⟩
    · have hid := TokenId.position_injective (h.numbered _ e he).1
      exact .inl ⟨e, List.mem_of_getElem? he, hname, hid⟩
    · -- an alias of the source is that of a resolved one, which has the identifier of its target
      rw [← h.aliases] at ha
      obtain ⟨r, hr, rfl⟩ := List.mem_map.mp ha
      have hposition := (h.targets r hr id.position).mp ⟨e, he, htarget.symm⟩
      exact .inr ⟨r, hr, hname, TokenId.position_injective hposition.symm⟩
  · rintro (⟨e, he, hname, rfl⟩ | ⟨r, hr, hname, rfl⟩)
    · obtain ⟨i, hi⟩ := List.mem_iff_getElem?.mp he
      rw [← (h.numbered i e hi).1] at hi
      exact ⟨e, hi, .inl hname⟩
    · obtain ⟨e, he, htarget⟩ := (h.targets r hr r.id.position).mpr rfl
      have hr' := List.mem_map_of_mem (f := fun a : AliasEntry => a.source) hr
      rw [h.aliases] at hr'
      exact ⟨e, he, .inr ⟨r.source, hr', hname, htarget.symm⟩⟩

theorem position_of_leadsTo {name : String} {i : Nat} (hi : c.LeadsTo t name i) :
    ∃ id : TokenId, id.position = i := by
  obtain ⟨e, he, -⟩ := hi
  exact ⟨e.id, (h.numbered i e he).1⟩

theorem idOf?_eq_none_iff_not_mem (name : String) : c.idOf? name = none ↔ name ∉ t.names := by
  rw [idOf?_eq_none_iff, h.names_perm.mem_iff]

variable (hnodup : t.names.Nodup)
include hnodup

theorem nodup_names : c.names.Nodup := h.names_perm.nodup_iff.mpr hnodup

theorem idOf?_eq_some_iff_leadsTo (name : String) (id : TokenId) :
    c.idOf? name = some id ↔ c.LeadsTo t name id.position := by
  rw [idOf?_eq_some_iff (h.nodup_names hnodup), h.leadsTo_iff]

theorem existsUnique_leadsTo {name : String} (hname : name ∈ t.names) :
    ∃! i, c.LeadsTo t name i := by
  have hsome : c.idOf? name ≠ none := fun hnone => (h.idOf?_eq_none_iff_not_mem name).mp hnone hname
  obtain ⟨id, hid⟩ := Option.ne_none_iff_exists'.mp hsome
  refine ⟨id.position, (h.idOf?_eq_some_iff_leadsTo hnodup name id).mp hid, ?_⟩
  -- any other position is that of an identifier too, which the search would find
  intro i hi
  obtain ⟨id', rfl⟩ := h.position_of_leadsTo hi
  have hid' := (h.idOf?_eq_some_iff_leadsTo hnodup name id').mpr hi
  rw [Option.some.inj (hid'.symm.trans hid)]

/-- The definition that an alias stands for is found under both names. -/
theorem idOf?_alias {a : Alias} (ha : a ∈ t.aliases) :
    ∃ id, c.idOf? a.name = some id ∧ c.idOf? a.target = some id := by
  have hsource := ha
  rw [← h.aliases] at hsource
  obtain ⟨r, hr, rfl⟩ := List.mem_map.mp hsource
  obtain ⟨e, he, htarget⟩ := (h.targets r hr r.id.position).mpr rfl
  refine ⟨r.id, ?_, ?_⟩
  · rw [h.idOf?_eq_some_iff_leadsTo hnodup]
    exact ⟨e, he, .inr ⟨r.source, ha, rfl, htarget.symm⟩⟩
  · rw [h.idOf?_eq_some_iff_leadsTo hnodup]
    exact ⟨e, he, .inl htarget⟩

theorem exists_entry {d : Definition} (hd : d ∈ t.definitions) :
    ∃ id, c.idOf? d.name = some id ∧ c.entries[id.position]? = some ⟨id, d⟩ := by
  obtain ⟨⟨id, _⟩, he, rfl⟩ := List.mem_map.mp (h.permuted.mem_iff.mpr hd)
  obtain ⟨i, hi⟩ := List.mem_iff_getElem?.mp he
  have hposition : id.position = i := (h.numbered i _ hi).1
  rw [← hposition] at hi
  exact ⟨id, (h.idOf?_eq_some_iff_leadsTo hnodup _ id).mpr ⟨_, hi, .inl rfl⟩, hi⟩

/-- One identifier is one position, which holds one definition. -/
theorem eq_of_idOf?_eq {d d' : Definition} (hd : d ∈ t.definitions) (hd' : d' ∈ t.definitions)
    (heq : c.idOf? d.name = c.idOf? d'.name) : d = d' := by
  obtain ⟨id, hid, he⟩ := h.exists_entry hnodup hd
  obtain ⟨id', hid', he'⟩ := h.exists_entry hnodup hd'
  obtain rfl : id = id' := Option.some.inj (hid.symm.trans (heq.trans hid'))
  exact congrArg Entry.definition (Option.some.inj (he.symm.trans he'))

/-- The search that prefers the last entry finds what the other one finds among the entries. -/
theorem getElem?_index (name : String) : (Entry.index c.entries)[name]? =
    if name ∈ t.definitions.map (·.name) then c.idOf? name else none := by
  have hentries : (c.entries.map (·.definition.name)).Nodup :=
    (h.nodup_names hnodup).of_append_left
  simp only [← h.map_name_entries.mem_iff]
  rw [Entry.getElem?_index, Entry.lastNamed?_eq_find? hentries]
  cases hfind : c.entries.find? (·.definition.name == name) with
  | some e =>
    obtain ⟨he, rfl⟩ := (find?_key_eq_some_iff hentries).mp hfind
    rw [if_pos (List.mem_map_of_mem he), idOf?, hfind, Option.map_some]
  | none =>
    have hmem : name ∉ c.entries.map (·.definition.name) := by
      simpa using hfind
    rw [if_neg hmem, Option.map_none]

end Represents

/-- Looking a name up in a compiled table finds the definition that has the name, or the one that is
the target of the alias with this name, and nothing for any other name. -/
theorem resolves_of_compile {t : Table} {c : Compiled} (h : t.compile = .ok c) : c.Resolves t := by
  obtain ⟨ha, rfl⟩ := (Table.compile_eq_ok_iff t c).mp h
  have hrepr := represents_ofTable ha
  have hnodup := ha.nodup_names
  constructor
  case found => exact hrepr.idOf?_eq_some_iff_leadsTo hnodup
  case missing =>
    intro name
    rw [hrepr.idOf?_eq_none_iff_not_mem, Table.names, List.mem_append, not_or]
  case unique => exact fun name hname => hrepr.existsUnique_leadsTo hnodup hname
  case targets => exact fun a ha => hrepr.idOf?_alias hnodup ha
  case distinct => exact fun d hd d' hd' heq => hrepr.eq_of_idOf?_eq hnodup hd hd' heq
  case index => exact hrepr.getElem?_index hnodup

/-- The alias leads to the operator that it stands for. -/
theorem mixed_resolves : Table.mixed.compile = .ok mixed ∧ mixed.Resolves Table.mixed ∧
    mixed.idOf? "bit_and" = some ⟨1⟩ ∧ mixed.idOf? "address" = some ⟨1⟩ ∧
      mixed.idOf? "switch" = none :=
  ⟨Table.compile_mixed, resolves_of_compile Table.compile_mixed, by decide, by decide, by decide⟩

end Compiled

end Lexicon
