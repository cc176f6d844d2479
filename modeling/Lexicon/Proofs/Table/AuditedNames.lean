import Mathlib
import Lexicon.Proofs.Table.AuditedLayout

/-! How far an audit ties the names of a compiled table to its source. It compares the front with
the source name by name, but it only counts the keywords and the aliases. So a keyword may be one
that the source does not have, and an alias may be lost behind another one that comes twice; there
is no third way to differ. -/
namespace Lexicon

def Table.keywordNames (t : Table) : List String :=
  (t.definitions.filter (·.isKeyword)).map (·.name)

def Compiled.keywordNames (c : Compiled) : List String :=
  (c.entries.drop c.firstKeyword.position).map (·.definition.name)

/-- No alias of an acceptable table is written twice. -/
theorem Table.Acceptable.nodup_aliases {t : Table} (h : t.Acceptable) : t.aliases.Nodup := by
  have hnames : (t.aliases.map (·.name)).Pairwise fun a b => ¬SameIgnoringCase a b :=
    (List.pairwise_append.mp h.distinct).2.1
  have hne : (t.aliases.map (·.name)).Pairwise (· ≠ ·) := by
    apply hnames.imp
    rintro a b hab rfl
    exact hab (.refl a)
  exact (List.nodup_iff_pairwise_ne.mpr hne).of_map (·.name)

namespace Compiled.Audited

variable {t : Table} {c : Compiled} (h : c.Audited t)
include h

theorem nodup_keywordNames : c.keywordNames.Nodup := by
  have hsub : c.keywordNames.Sublist (c.entries.map (·.definition.name)) :=
    (List.drop_sublist c.firstKeyword.position c.entries).map _
  exact h.distinct.sublist hsub

theorem length_keywordNames : c.keywordNames.length = t.keywordNames.length := by
  have hcount := h.keywordCount
  unfold Compiled.size Table.keywordCount at hcount
  unfold Compiled.keywordNames Table.keywordNames
  rw [List.length_map, List.length_drop, List.length_map, hcount]

end Compiled.Audited

/-- An audit that reports nothing leaves as many keywords, all different, and as many aliases as the
source has. They are those of the source exactly if no keyword is foreign and no alias is lost. -/
theorem Compiled.audit_names_iff {t : Table} {original c : Compiled}
    (ht : t.compile = .ok original) (h : c.audit t = .ok ()) :
    c.keywordNames.Nodup ∧ c.keywordNames.length = t.keywordNames.length ∧
      c.aliases.length = t.aliases.length ∧
      (c.keywordNames.Perm t.keywordNames ↔ c.keywordNames ⊆ t.keywordNames) ∧
      ((c.aliases.map (·.source)).Perm t.aliases ↔ t.aliases ⊆ c.aliases.map (·.source)) := by
  have hacceptable := ((Table.compile_eq_ok_iff t original).mp ht).1
  have haudited := (audit_eq_ok_iff t c).mp h
  have haliases : t.aliases.length = (c.aliases.map (·.source)).length := by
    rw [List.length_map, haudited.aliasCount]
  refine ⟨haudited.nodup_keywordNames, haudited.length_keywordNames, haudited.aliasCount,
    perm_iff_subset haudited.nodup_keywordNames haudited.length_keywordNames, ?_⟩
  -- the aliases of the source are the ones that are known to differ from each other
  rw [List.perm_comm]
  exact perm_iff_subset hacceptable.nodup_aliases haliases

/-- The four definitions and the alias pass the audit under their own names. -/
theorem Compiled.mixed_names : Table.mixed.compile = .ok Compiled.mixed ∧
    Compiled.mixed.audit Table.mixed = .ok () ∧
    Compiled.mixed.keywordNames.Perm Table.mixed.keywordNames ∧
    (Compiled.mixed.aliases.map (·.source)).Perm Table.mixed.aliases := by
  have haudit : Compiled.mixed.audit Table.mixed = .ok () := by cbv
  obtain ⟨-, -, -, hkeywords, haliases⟩ := audit_names_iff Table.compile_mixed haudit
  exact ⟨Table.compile_mixed, haudit, hkeywords.mpr (by decide), haliases.mpr (by decide)⟩

/-- One keyword, and two aliases of one token. -/
def Table.twice : Table where
  definitions := [⟨"none", .plain, .idOnly, none⟩, ⟨"beta", .keyword, .idOnly, none⟩]
  aliases := [⟨"first", "none", none⟩, ⟨"second", "none", none⟩]

/-- Another keyword in the place of the one, and the first alias in the place of the second. -/
def Compiled.masked : Compiled where
  entries := [⟨⟨0⟩, ⟨"none", .plain, .idOnly, none⟩⟩,
    ⟨⟨1⟩, ⟨"alpha", .keyword, .idOnly, none⟩⟩]
  aliases := [⟨⟨0⟩, ⟨"first", "none", none⟩⟩, ⟨⟨0⟩, ⟨"first", "none", none⟩⟩]
  firstKeyword := ⟨1⟩

/-- The audit does not see that a keyword is foreign, nor that an alias is lost. -/
theorem Compiled.masked_passes : (∃ original, Table.twice.compile = .ok original) ∧
    Compiled.masked.audit Table.twice = .ok () ∧
    ¬Compiled.masked.keywordNames.Perm Table.twice.keywordNames ∧
    ¬(Compiled.masked.aliases.map (·.source)).Perm Table.twice.aliases := by
  have hacceptable : Table.twice.Acceptable := ⟨by decide, by decide, by decide, by decide⟩
  refine ⟨⟨_, (Table.compile_eq_ok_iff _ _).mpr ⟨hacceptable, rfl⟩⟩, by cbv, ?_, ?_⟩
  · intro hperm
    have hforeign : "alpha" ∈ Table.twice.keywordNames := hperm.subset (by decide)
    exact absurd hforeign (by decide)
  · intro hperm
    have hlost : (⟨"second", "none", none⟩ : Alias) ∈ Compiled.masked.aliases.map (·.source) :=
      hperm.symm.subset (by decide)
    exact absurd hlost (by decide)

end Lexicon
