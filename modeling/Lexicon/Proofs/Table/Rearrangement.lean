import Mathlib
import Lexicon.Proofs.Table.Compilation

namespace Lexicon

namespace Table

/-- The same definitions that are no keywords, in the same order, and the same keywords, in any
order and anywhere between the others. -/
structure Rearranges (t u : Table) : Prop where
  front : t.nonKeywords = u.nonKeywords
  keywords : (t.definitions.filter (·.isKeyword)).Perm (u.definitions.filter (·.isKeyword))

namespace Rearranges

variable {t u : Table} (h : t.Rearranges u)
include h

theorem symm : u.Rearranges t := ⟨h.front.symm, h.keywords.symm⟩

theorem filter_eq : t.definitions.filter (!·.isKeyword) = u.definitions.filter (!·.isKeyword) :=
  h.front

theorem definitions_perm : t.definitions.Perm u.definitions :=
  calc
    t.definitions.Perm
        (t.definitions.filter (!·.isKeyword) ++ t.definitions.filter (·.isKeyword)) :=
      (Layout.parts_perm t.definitions).symm
    List.Perm _ (u.definitions.filter (!·.isKeyword) ++ u.definitions.filter (·.isKeyword)) := by
      rw [h.filter_eq]
      exact h.keywords.append_left _
    List.Perm _ u.definitions := Layout.parts_perm u.definitions

/-- Whether a table is acceptable is said without the order of its definitions. -/
theorem acceptable (haliases : t.aliases = u.aliases) (ht : t.Acceptable) : u.Acceptable := by
  have hdefinitions := h.definitions_perm
  have hnames : t.names.Perm u.names := by
    rw [names, names, haliases]
    exact (hdefinitions.map _).append_right _
  constructor
  case withinCapacity =>
    rw [← hdefinitions.length_eq]
    exact ht.withinCapacity
  case wellFormed =>
    intro name hname
    exact ht.wellFormed name (hnames.mem_iff.mpr hname)
  case distinct =>
    -- names that differ do so in either order
    apply hnames.pairwise ht.distinct
    intro a b hab hba
    exact hab hba.symm
  case resolved =>
    intro a ha
    rw [← haliases] at ha
    exact (hdefinitions.map _).mem_iff.mp (ht.resolved a ha)

/-- Sorting finds the one order that keywords with distinct names have. -/
theorem layout_eq (hnodup : (t.definitions.map (·.name)).Nodup) :
    Layout.ofDefinitions t.definitions = Layout.ofDefinitions u.definitions := by
  have hnodup' : (u.definitions.map (·.name)).Nodup :=
    (h.definitions_perm.map _).nodup_iff.mp hnodup
  have hperm := (Layout.keywords_perm t.definitions).trans h.keywords
  have htokens := Layout.append_eq_tokens u.definitions hnodup' hperm
    (Layout.keywords_ascend t.definitions hnodup)
  have hfirst : (Layout.ofDefinitions t.definitions).firstKeyword =
      (Layout.ofDefinitions u.definitions).firstKeyword := congrArg List.length h.filter_eq
  rw [← h.filter_eq, ← Layout.take_firstKeyword t.definitions, List.take_append_drop] at htokens
  exact congrArg₂ Layout.mk htokens hfirst

/-- The entries and the keyword boundary do not depend on the places of the keywords, whatever the
aliases are. -/
theorem ofTable_eq (hnodup : (t.definitions.map (·.name)).Nodup) :
    (Compiled.ofTable u).entries = (Compiled.ofTable t).entries ∧
      (Compiled.ofTable u).firstKeyword = (Compiled.ofTable t).firstKeyword := by
  rw [Compiled.ofTable, Compiled.ofTable, h.layout_eq hnodup]
  exact ⟨rfl, rfl⟩

theorem compile_eq_ok (haliases : t.aliases = u.aliases) {c : Compiled} (hc : t.compile = .ok c) :
    u.compile = .ok c := by
  obtain ⟨ha, rfl⟩ := (compile_eq_ok_iff t c).mp hc
  have hnodup := ((acceptable_iff t).mp ha).1.nodup_names
  rw [compile_eq_ok_iff]
  refine ⟨h.acceptable haliases ha, ?_⟩
  rw [Compiled.ofTable, Compiled.ofTable, h.layout_eq hnodup, haliases]

end Rearranges

end Table

end Lexicon
