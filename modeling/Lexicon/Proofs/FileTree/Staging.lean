import Mathlib.Data.List.Nodup
import Mathlib.Data.List.Perm.Subperm
import Lexicon.Proofs.FileTree.Location

namespace Lexicon

open Text (Bytes)

namespace Writing

theorem temporaryName_injective : Function.Injective temporaryName := by
  intro i j h
  have hlists := congrArg String.toList h
  rw [temporaryName, temporaryName, String.toList_append, String.toList_append,
    List.append_cancel_left_eq, Nat.toString_eq_ofList_toDigits, Nat.toString_eq_ofList_toDigits,
    String.toList_ofList, String.toList_ofList] at hlists
  calc
    i = Nat.ofDigitChars 10 (Nat.toDigits 10 i) 0 := Nat.ofDigitChars_ten_toDigits.symm
    _ = Nat.ofDigitChars 10 (Nat.toDigits 10 j) 0 := by rw [hlists]
    _ = j := Nat.ofDigitChars_ten_toDigits

theorem hidden_temporary (directory : Location) (i : Nat) :
    FileTree.Hidden (directory ++ [temporaryName i]) := by
  refine ⟨directory, temporaryName i, rfl, ?_⟩
  rw [temporaryName, String.toList_append]
  exact List.mem_append_left _ (by decide)

/-- A tree with `n` nodes leaves one of `n + 1` names free. -/
theorem exists_free_name (t : FileTree) (directory : Location) :
    ∃ i ∈ List.range (t.nodes.length + 1), t.node? (directory ++ [temporaryName i]) = none := by
  -- otherwise the taken names would be more than the nodes
  by_contra hnone
  push Not at hnone
  have htaken : (List.range (t.nodes.length + 1)).map (fun i => directory ++ [temporaryName i]) ⊆
      t.nodes.map (·.1) := by
    intro l hl
    obtain ⟨i, hi, rfl⟩ := List.mem_map.mp hl
    have hnode := hnone i hi
    rw [FileTree.node?,
      if_neg (List.append_ne_nil_of_right_ne_nil _ (List.cons_ne_nil _ _))] at hnode
    obtain ⟨n, hn⟩ := Option.ne_none_iff_exists'.mp hnode
    obtain ⟨front, back, hsplit, -⟩ := List.lookup_eq_some_iff.mp hn
    rw [hsplit, List.map_append, List.map_cons]
    exact List.mem_append_right _ List.mem_cons_self
  have hnodup : ((List.range (t.nodes.length + 1)).map
      (fun i => directory ++ [temporaryName i])).Nodup := by
    apply List.Nodup.map ?_ List.nodup_range
    intro i j hij
    exact temporaryName_injective (List.head_eq_of_cons_eq (List.append_cancel_left hij))
  have hlength := (hnodup.subperm htaken).length_le
  rw [List.length_map, List.length_map, List.length_range] at hlength
  omega

/-- There is always a free name: one more than there are nodes are tried. -/
theorem freshName_spec (t : FileTree) (directory : Location) :
    t.node? (directory ++ [freshName t directory]) = none ∧
      FileTree.Hidden (directory ++ [freshName t directory]) := by
  obtain ⟨i, hi, hfree⟩ := exists_free_name t directory
  cases hfind : ((List.range (t.nodes.length + 1)).map temporaryName).find? fun name =>
      (t.node? (directory ++ [name])).isNone with
  | none =>
    -- the free name is among those that are tried
    have hnot := List.find?_eq_none.mp hfind _ (List.mem_map_of_mem hi)
    rw [hfree] at hnot
    exact absurd rfl hnot
  | some name =>
    have hnone := List.find?_some hfind
    obtain ⟨j, -, rfl⟩ := List.mem_map.mp (List.mem_of_find?_eq_some hfind)
    have hname : freshName t directory = temporaryName j := by
      rw [freshName, hfind]
      rfl
    rw [hname]
    exact ⟨Option.isNone_iff_eq_none.mp hnone, hidden_temporary directory j⟩

end Writing

namespace FileTree

/-- A directory lies where nothing lay before. -/
def Gains (t t' : FileTree) (l : Location) : Prop :=
  t.node? l = none ∧ t'.node? l = some .directory

/-- A tree keeps all that it has, and gains at most directories on the way to something. -/
def Grows (t : FileTree) (way : Location → Prop) (t' : FileTree) : Prop :=
  ∀ l, t'.node? l = t.node? l ∨ (way l ∧ t.Gains t' l)

namespace Grows

variable {s t t' : FileTree} {way : Location → Prop}

theorem node?_eq_iff (h : t.Grows way t') (l : Location) :
    t'.node? l = t.node? l ↔ ¬t.Gains t' l := by
  constructor
  · rintro hsame ⟨hnone, hdirectory⟩
    rw [hnone, hdirectory] at hsame
    exact nomatch hsame
  · intro hnot
    rcases h l with hsame | ⟨-, hgains⟩
    · exact hsame
    · exact absurd hgains hnot

theorem node?_eq_some (h : t.Grows way t') {l : Location} {n : Node} (hl : t.node? l = some n) :
    t'.node? l = some n := by
  rcases h l with hsame | ⟨-, hnone, -⟩
  · rw [hsame, hl]
  · rw [hl] at hnone
    exact nomatch hnone

/-- Only what lies in the smaller tree matters. -/
theorem of_eq (h : t.Grows way t') (hs : ∀ l, t.node? l = s.node? l) : s.Grows way t' := by
  intro l
  rw [Gains, ← hs l]
  exact h l

end Grows

/-- A node that is put where it lies already changes nothing. -/
theorem node?_put_of_held {t : FileTree} {k : Location} (hne : k ≠ []) {n : Node}
    (h : t.node? k = some n) (l : Location) : (t.put k n).node? l = t.node? l := by
  by_cases hl : l = k
  · rw [hl, node?_put_self t hne, h]
  · rw [node?_put_of_ne t hl]

/-- The second tree is the first with these temporary files in it, and perhaps with more
directories on the way. -/
structure Staged (t : FileTree) (way : Location → Prop) (temporaries : List (Location × Bytes))
    (t' : FileTree) : Prop where
  hidden : ∀ s ∈ temporaries, Hidden s.1
  distinct : (temporaries.map (·.1)).Nodup
  fresh : ∀ s ∈ temporaries, t.node? s.1 = none
  written : ∀ s ∈ temporaries, t'.node? s.1 = some (.file s.2 false)
  others : ∀ l ∉ temporaries.map (·.1), t'.node? l = t.node? l ∨ (way l ∧ t.Gains t' l)

theorem ne_nil_of_node? {t : FileTree} {l : Location} (h : t.node? l = none) : l ≠ [] := by
  rintro rfl
  exact nomatch h

namespace Staged

variable {way : Location → Prop}

theorem refl (t : FileTree) : Staged t way [] t where
  hidden := nofun
  distinct := List.nodup_nil
  fresh := nofun
  written := nofun
  others _ _ := Or.inl rfl

theorem perm {t t' : FileTree} {xs ys : List (Location × Bytes)} (h : Staged t way xs t')
    (hp : xs.Perm ys) :
    Staged t way ys t' where
  hidden s hs := h.hidden s (hp.mem_iff.mpr hs)
  distinct := (hp.map _).nodup_iff.mp h.distinct
  fresh s hs := h.fresh s (hp.mem_iff.mpr hs)
  written s hs := h.written s (hp.mem_iff.mpr hs)
  others l hl := h.others l fun hmem => hl ((hp.map _).mem_iff.mp hmem)

theorem grows {t t' : FileTree} (h : Staged t way [] t') : t.Grows way t' :=
  fun l => h.others l List.not_mem_nil

variable {t t' : FileTree} {l : Location} {bytes : Bytes} {rest : List (Location × Bytes)}

/-- What is free now was free before. -/
theorem node?_eq_none (h : Staged t way rest t') (hl : t'.node? l = none) :
    l ∉ rest.map (·.1) ∧ t.node? l = none := by
  have hmem : l ∉ rest.map (·.1) := by
    intro hmem
    obtain ⟨s, hs, rfl⟩ := List.mem_map.mp hmem
    rw [h.written s hs] at hl
    exact nomatch hl
  refine ⟨hmem, ?_⟩
  rcases h.others l hmem with hsame | ⟨-, hgains⟩
  · rw [← hsame, hl]
  · exact hgains.1

/-- A directory that is made on the way may stay behind. -/
theorem makeDirectory (h : Staged t way rest t') (hway : way l) (hl : t'.node? l = none) :
    Staged t way rest (t'.put l .directory) where
  hidden := h.hidden
  distinct := h.distinct
  fresh := h.fresh
  written s hs := by
    have hne : s.1 ≠ l := fun he => (h.node?_eq_none hl).1 (he ▸ List.mem_map_of_mem hs)
    rw [node?_put_of_ne _ hne]
    exact h.written s hs
  others k hk := by
    by_cases hkl : k = l
    · -- the one new node is a directory, where nothing lay before either
      rw [hkl]
      exact Or.inr ⟨hway, (h.node?_eq_none hl).2, node?_put_self _ (ne_nil_of_node? hl) _⟩
    · rw [Gains, node?_put_of_ne _ hkl]
      exact h.others k hk

/-- One more temporary file, at a location of its own. -/
theorem create (h : Staged t way rest t') (hl : t'.node? l = none) (hhidden : Hidden l) :
    Staged t way ((l, bytes) :: rest) (t'.put l (.file bytes false)) where
  hidden := List.forall_mem_cons.mpr ⟨hhidden, h.hidden⟩
  distinct := List.nodup_cons.mpr ⟨(h.node?_eq_none hl).1, h.distinct⟩
  fresh := List.forall_mem_cons.mpr ⟨(h.node?_eq_none hl).2, h.fresh⟩
  written := by
    refine List.forall_mem_cons.mpr ⟨node?_put_self _ (ne_nil_of_node? hl) _, fun s hs => ?_⟩
    have hne : s.1 ≠ l := fun he => (h.node?_eq_none hl).1 (he ▸ List.mem_map_of_mem hs)
    rw [node?_put_of_ne _ hne]
    exact h.written s hs
  others k hk := by
    obtain ⟨hkl, hk⟩ := List.ne_and_not_mem_of_not_mem_cons hk
    rw [Gains, node?_put_of_ne _ hkl]
    exact h.others k hk

/-- The newest temporary file is not one of the others. -/
theorem ne_of_mem {s : Location × Bytes} (h : Staged t way ((l, bytes) :: rest) t')
    (hs : s ∈ rest) : s.1 ≠ l :=
  fun he => (List.nodup_cons.mp h.distinct).1 (List.mem_map.mpr ⟨s, hs, he⟩)

theorem ne_nil (h : Staged t way ((l, bytes) :: rest) t') : l ≠ [] :=
  ne_nil_of_node? (h.fresh (l, bytes) List.mem_cons_self)

theorem fill (h : Staged t way ((l, bytes) :: rest) t') (bytes' : Bytes) :
    Staged t way ((l, bytes') :: rest) (t'.put l (.file bytes' false)) where
  hidden := List.forall_mem_cons.mpr (List.forall_mem_cons.mp h.hidden)
  distinct := h.distinct
  fresh := List.forall_mem_cons.mpr (List.forall_mem_cons.mp h.fresh)
  written := by
    refine List.forall_mem_cons.mpr ⟨node?_put_self _ h.ne_nil _, fun s hs => ?_⟩
    rw [node?_put_of_ne _ (h.ne_of_mem hs)]
    exact h.written s (List.mem_cons_of_mem _ hs)
  others k hk := by
    rw [Gains, node?_put_of_ne _ (List.ne_of_not_mem_cons hk)]
    exact h.others k hk

/-- Without its temporary file, the tree has nothing at that location, as before. -/
theorem discard (h : Staged t way ((l, bytes) :: rest) t') : Staged t way rest (t'.remove l) where
  hidden := (List.forall_mem_cons.mp h.hidden).2
  distinct := (List.nodup_cons.mp h.distinct).2
  fresh := (List.forall_mem_cons.mp h.fresh).2
  written s hs := by
    rw [node?_remove_of_ne _ (h.ne_of_mem hs)]
    exact h.written s (List.mem_cons_of_mem _ hs)
  others k hk := by
    by_cases hkl : k = l
    · -- the temporary file is gone, and nothing lay there before it
      rw [hkl, node?_remove_self _ h.ne_nil, h.fresh (l, bytes) List.mem_cons_self]
      exact Or.inl rfl
    · rw [Gains, node?_remove_of_ne _ hkl]
      exact h.others k (List.not_mem_cons_of_ne_of_not_mem hkl hk)

/-- A temporary file that is moved leaves a tree in which the destination has its bytes. -/
theorem move {k : Location} (h : Staged t way ((l, bytes) :: rest) t') (hk : ¬Hidden k)
    (hne : k ≠ []) :
    Staged (t.put k (.file bytes false)) way rest ((t'.remove l).put k (.file bytes false)) := by
  have hdiscard := h.discard
  have hother : ∀ s ∈ rest, s.1 ≠ k := fun s hs he => hk (he ▸ hdiscard.hidden s hs)
  refine ⟨hdiscard.hidden, hdiscard.distinct, fun s hs => ?_, fun s hs => ?_, fun j hj => ?_⟩
  · rw [node?_put_of_ne _ (hother s hs)]
    exact hdiscard.fresh s hs
  · rw [node?_put_of_ne _ (hother s hs)]
    exact hdiscard.written s hs
  · by_cases hjk : j = k
    · -- both trees have the bytes at the destination, whatever lay there
      rw [hjk, node?_put_self _ hne, node?_put_self _ hne]
      exact Or.inl rfl
    · rw [Gains, node?_put_of_ne _ hjk, node?_put_of_ne _ hjk]
      exact hdiscard.others j hj

end Staged

end FileTree

end Lexicon
