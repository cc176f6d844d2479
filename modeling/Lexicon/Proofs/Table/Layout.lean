import Lexicon.Table.Layout

namespace Lexicon

theorem Text.utf8_injective : Function.Injective Text.utf8 := by
  intro a b h
  apply String.toByteArray_inj.mp
  exact ByteArray.ext (Array.toList_inj.mp h)

namespace Definition

theorem nameLE_trans (a b c : Definition) (hab : nameLE a b = true) (hbc : nameLE b c = true) :
    nameLE a c = true := by
  rw [nameLE, decide_eq_true_eq] at *
  exact List.le_trans hab hbc

theorem nameLE_total (a b : Definition) : (nameLE a b || nameLE b a) = true := by
  rw [Bool.or_eq_true, nameLE, nameLE, decide_eq_true_eq, decide_eq_true_eq]
  exact List.le_total _ _

/-- Of two definitions with different names one comes strictly first. -/
theorem utf8_name_lt_of_nameLE {a b : Definition} (h : nameLE a b = true) (hne : a.name ≠ b.name) :
    Text.utf8 a.name < Text.utf8 b.name := by
  rw [nameLE, decide_eq_true_eq] at h
  rcases List.le_iff_lt_or_eq.mp h with hlt | heq
  · exact hlt
  · exact absurd (Text.utf8_injective heq) hne

end Definition

namespace Layout

variable (definitions : List Definition)

theorem parts_perm : (definitions.filter (!·.isKeyword) ++ definitions.filter (·.isKeyword)).Perm
    definitions := by
  have hparts := List.filter_append_perm (fun d : Definition => !d.isKeyword) definitions
  simp only [Bool.not_not] at hparts
  exact hparts

theorem tokens_perm : (ofDefinitions definitions).tokens.Perm definitions := by
  -- sorting permutes the keywords, and the two filters leave nothing out
  have hsort := List.mergeSort_perm (definitions.filter (·.isKeyword)) Definition.nameLE
  exact (hsort.append_left _).trans (parts_perm definitions)

@[simp] theorem take_firstKeyword :
    (ofDefinitions definitions).tokens.take (ofDefinitions definitions).firstKeyword =
      definitions.filter (!·.isKeyword) :=
  List.take_left

@[simp] theorem drop_firstKeyword :
    (ofDefinitions definitions).tokens.drop (ofDefinitions definitions).firstKeyword =
      (definitions.filter (·.isKeyword)).mergeSort Definition.nameLE :=
  List.drop_left

theorem keywords_perm :
    ((ofDefinitions definitions).tokens.drop (ofDefinitions definitions).firstKeyword).Perm
      (definitions.filter (·.isKeyword)) := by
  rw [drop_firstKeyword]
  exact List.mergeSort_perm _ _

theorem keywords_sorted :
    ((ofDefinitions definitions).tokens.drop (ofDefinitions definitions).firstKeyword).Pairwise
      fun a b => Definition.nameLE a b = true := by
  rw [drop_firstKeyword]
  exact List.pairwise_mergeSort Definition.nameLE_trans Definition.nameLE_total _

/-- Keywords with different names ascend strictly. -/
theorem keywords_ascend (h : (definitions.map (·.name)).Nodup) :
    ((ofDefinitions definitions).tokens.drop (ofDefinitions definitions).firstKeyword).Pairwise
      fun a b => Text.utf8 a.name < Text.utf8 b.name := by
  have hperm := keywords_perm definitions
  have hnames : ((definitions.filter (·.isKeyword)).map (·.name)).Nodup :=
    h.sublist (List.filter_sublist.map _)
  rw [← (hperm.map _).nodup_iff, List.nodup_iff_pairwise_ne, List.pairwise_map] at hnames
  -- the order of the sort is weak, and distinct names make it strict
  have hsorted := keywords_sorted definitions
  exact (hsorted.and hnames).imp fun h => Definition.utf8_name_lt_of_nameLE h.1 h.2

/-- Ascending definitions behind those that are no keywords are the final order, if they are the
keywords. -/
theorem append_eq_tokens {back : List Definition} (hnodup : (definitions.map (·.name)).Nodup)
    (hperm : back.Perm (definitions.filter (·.isKeyword)))
    (hascend : back.Pairwise fun a b => Text.utf8 a.name < Text.utf8 b.name) :
    definitions.filter (!·.isKeyword) ++ back = (ofDefinitions definitions).tokens := by
  have hsame : back.Perm
      ((ofDefinitions definitions).tokens.drop (ofDefinitions definitions).firstKeyword) :=
    hperm.trans (keywords_perm definitions).symm
  -- two lists of the same members that both ascend cannot differ
  have heq : back =
      (ofDefinitions definitions).tokens.drop (ofDefinitions definitions).firstKeyword := by
    apply hsame.eq_of_pairwise _ hascend (keywords_ascend definitions hnodup)
    intro a b _ _ hab hba
    exact absurd hba (List.lt_asymm hab)
  rw [heq, ← take_firstKeyword, List.take_append_drop]

theorem firstKeyword_add_keywords :
    (ofDefinitions definitions).firstKeyword + (definitions.filter (·.isKeyword)).length =
      definitions.length := by
  have h := (parts_perm definitions).length_eq
  rw [List.length_append] at h
  exact h

end Layout

end Lexicon
