import Mathlib
import Lexicon.Proofs.Table.Compilation

/-! An audit leaves no choice. No check of it speaks of the names of keywords in the source, but the
counts, the distinct names, the categories and the ascending order together allow only one layout:
that of the source in final order, numbered by position. -/
namespace Lexicon

/-- Among as many items, without repetition on the left, none is foreign exactly if none is lost. -/
theorem perm_iff_subset {α : Type} {xs ys : List α} (hnodup : xs.Nodup)
    (hlength : xs.length = ys.length) : xs.Perm ys ↔ xs ⊆ ys := by
  constructor
  · intro hperm
    exact hperm.subset
  · intro hsub
    have hsubperm := hnodup.subperm hsub
    exact hsubperm.perm_of_length_le hlength.ge

/-- Among definitions with distinct names, equal names in equal places are equal definitions. -/
theorem Definition.eq_of_map_name_eq {ds ds' definitions : List Definition}
    (hnodup : (definitions.map (·.name)).Nodup) (hsub : ds ⊆ definitions)
    (hsub' : ds' ⊆ definitions) (h : ds.map (·.name) = ds'.map (·.name)) : ds = ds' := by
  induction ds generalizing ds' with
  | nil => exact (List.map_eq_nil_iff.mp h.symm).symm
  | cons d ds ih =>
    obtain ⟨d', rest, rfl, hname, hrest⟩ := List.map_eq_cons_iff.mp h.symm
    obtain ⟨hd, hds⟩ := List.cons_subset.mp hsub
    obtain ⟨hd', hds'⟩ := List.cons_subset.mp hsub'
    rw [List.inj_on_of_nodup_map hnodup hd hd' hname.symm, ih hds hds' hrest.symm]

/-- A compiled table that is the one right layout of its source. -/
structure Compiled.LaidOut (t : Table) (c : Compiled) : Prop where
  distinct : (t.definitions.map (·.name)).Nodup
  tokens : c.entries.map (·.definition) = (Layout.ofDefinitions t.definitions).tokens
  numbered : ∀ i (e : Entry), c.entries[i]? = some e → e.id.position = i
  boundary : c.firstKeyword.position = t.nonKeywords.length
  targets : ∀ a ∈ c.aliases, ∀ i,
    (∃ e, c.entries[i]? = some e ∧ e.definition.name = a.source.target) ↔ i = a.id.position

namespace Compiled.Audited

variable {t : Table} {c : Compiled} (h : c.Audited t)
include h

theorem length_take : (c.entries.take c.firstKeyword.position).length = c.firstKeyword.position :=
  List.length_take_of_le h.boundaryInside

/-- The front has as many entries as the source has definitions that are no keywords. -/
theorem position_firstKeyword : c.firstKeyword.position = t.nonKeywords.length := by
  have hlength := congrArg List.length h.authorOrder
  rw [List.length_map, List.length_map, h.length_take] at hlength
  exact hlength.symm

theorem map_name_definitions_nodup : ((c.entries.map (·.definition)).map (·.name)).Nodup := by
  rw [List.map_map]
  exact h.distinct

/-- Splitting the entries at the boundary is the same as asking which of them are keywords. -/
theorem filter_eq_drop : (c.entries.map (·.definition)).filter (·.isKeyword) =
    (c.entries.drop c.firstKeyword.position).map (·.definition) := by
  have hfront : ((c.entries.take c.firstKeyword.position).map (·.definition)).filter
      (·.isKeyword) = [] := by
    simp only [List.filter_eq_nil_iff, List.forall_mem_map, Bool.not_eq_true]
    exact h.front
  have hback : ((c.entries.drop c.firstKeyword.position).map (·.definition)).filter
      (·.isKeyword) = (c.entries.drop c.firstKeyword.position).map (·.definition) := by
    simp only [List.filter_eq_self, List.forall_mem_map]
    exact h.keywords
  conv_lhs => rw [← List.take_append_drop c.firstKeyword.position c.entries]
  rw [List.map_append, List.filter_append, hfront, hback, List.nil_append]

/-- The position of an alias is that of the one entry with its target's name. -/
theorem target_iff {a : AliasEntry} (ha : a ∈ c.aliases) (i : Nat) :
    (∃ e, c.entries[i]? = some e ∧ e.definition.name = a.source.target) ↔ i = a.id.position := by
  obtain ⟨e, he, hname⟩ := h.targets a ha
  rw [← hname]
  exact named_at_iff h.distinct he

/-- The identifiers are words of 32 bits, so that a position is read back from its identifier as
long as there are not more entries than words. -/
theorem position_id (hsize : t.definitions.length < 4294967296) {i : Nat} {e : Entry}
    (he : c.entries[i]? = some e) : e.id.position = i := by
  have hi : i < c.size := (List.getElem?_eq_some_iff.mp he).1
  have hcount := h.count
  rw [h.numbered i e he]
  exact TokenId.position_ofPosition (by omega)

variable (hrefer : ∀ e ∈ c.entries, e.definition ∈ t.definitions)
include hrefer

/-- As many entries as definitions, with distinct names: each definition has exactly one entry. -/
theorem definitions_perm : (c.entries.map (·.definition)).Perm t.definitions := by
  have hsub : c.entries.map (·.definition) ⊆ t.definitions := by
    intro d hd
    obtain ⟨e, he, rfl⟩ := List.mem_map.mp hd
    exact hrefer e he
  have hlength : (c.entries.map (·.definition)).length = t.definitions.length := by
    rw [List.length_map]
    exact h.count
  have hnodup : (c.entries.map (·.definition)).Nodup := h.map_name_definitions_nodup.of_map _
  exact (perm_iff_subset hnodup hlength).mpr hsub

theorem nodup_names : (t.definitions.map (·.name)).Nodup :=
  ((h.definitions_perm hrefer).map _).nodup_iff.mp h.map_name_definitions_nodup

theorem map_take : (c.entries.take c.firstKeyword.position).map (·.definition) =
    t.definitions.filter (!·.isKeyword) := by
  apply Definition.eq_of_map_name_eq (h.nodup_names hrefer)
  · intro d hd
    obtain ⟨e, he, rfl⟩ := List.mem_map.mp hd
    exact hrefer e (List.mem_of_mem_take he)
  · exact List.filter_subset_self _
  · rw [List.map_map]
    exact h.authorOrder.symm

theorem map_drop_perm : ((c.entries.drop c.firstKeyword.position).map (·.definition)).Perm
    (t.definitions.filter (·.isKeyword)) := by
  rw [← h.filter_eq_drop]
  exact (h.definitions_perm hrefer).filter _

/-- An audited table has the definitions of its source in final order. -/
theorem map_definition : c.entries.map (·.definition) =
    (Layout.ofDefinitions t.definitions).tokens := by
  have hascend : ((c.entries.drop c.firstKeyword.position).map (·.definition)).Pairwise
      fun a b => Text.utf8 a.name < Text.utf8 b.name := by
    rw [List.pairwise_map]
    exact h.ascending
  -- front and keywords are known apart from each other
  calc
    c.entries.map (·.definition) = (c.entries.take c.firstKeyword.position).map (·.definition) ++
        (c.entries.drop c.firstKeyword.position).map (·.definition) := by
      rw [← List.map_append, List.take_append_drop]
    _ = t.definitions.filter (!·.isKeyword) ++
        (c.entries.drop c.firstKeyword.position).map (·.definition) := by
      rw [h.map_take hrefer]
    _ = (Layout.ofDefinitions t.definitions).tokens :=
      Layout.append_eq_tokens _ (h.nodup_names hrefer) (h.map_drop_perm hrefer) hascend

end Compiled.Audited

/-- Whatever the identifiers, the order, the repetitions, the boundary and the aliases of a compiled
table are: if all its entries are definitions of the source and the audit finds nothing to report,
then it is the one right layout. -/
theorem Compiled.laidOut_of_audit {t : Table} {c : Compiled}
    (hsize : t.definitions.length < 4294967296)
    (hrefer : ∀ e ∈ c.entries, e.definition ∈ t.definitions) (h : c.audit t = .ok ()) :
    c.LaidOut t := by
  have haudited := (audit_eq_ok_iff t c).mp h
  exact {
    distinct := haudited.nodup_names hrefer
    tokens := haudited.map_definition hrefer
    numbered := fun i e he => haudited.position_id hsize he
    boundary := haudited.position_firstKeyword
    targets := fun a ha i => haudited.target_iff ha i }

theorem Compiled.mixed_laidOut : Table.mixed.definitions.length < 4294967296 ∧
    (∀ e ∈ Compiled.mixed.entries, e.definition ∈ Table.mixed.definitions) ∧
    Compiled.mixed.audit Table.mixed = .ok () ∧ Compiled.mixed.LaidOut Table.mixed := by
  have hrefer : ∀ e ∈ Compiled.mixed.entries, e.definition ∈ Table.mixed.definitions := by decide
  have haudit : Compiled.mixed.audit Table.mixed = .ok () := by cbv
  exact ⟨by decide, hrefer, haudit, laidOut_of_audit (by decide) hrefer haudit⟩

/-- Two keywords in each other's place, each with the identifier of that place, are reported. -/
example : ({ Compiled.mixed with
    entries := Compiled.mixed.entries.take 2 ++ [⟨⟨2⟩, ⟨"while", .keyword, .idOnly, none⟩⟩,
      ⟨⟨3⟩, ⟨"POD", .keyword, .idOnly, none⟩⟩] } : Compiled).audit Table.mixed =
    .error (.failed (.keywordsOutOfOrder "while" "POD")) := by
  cbv

end Lexicon
