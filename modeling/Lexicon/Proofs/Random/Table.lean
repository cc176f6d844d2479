import Mathlib.Data.List.Forall2
import Mathlib.Data.Nat.Digits.Defs
import Lexicon.Proofs.Table.Acceptance
import Lexicon.Proofs.Text.Numerals
import Lexicon.Random.Table

/-! Random tables are acceptable, whatever is drawn. A name ends behind its first underscore in a
mark and a position, which tell it from all other names of the table even if the case of letters is
ignored, and the target of an alias is taken from the definitions. -/
namespace Lexicon.Random

variable {σ α β : Type}

/-- The outcome of draws has a property, from every state. -/
def Ensures (x : StateM σ α) (P : α → Prop) : Prop := ∀ s, P (x s).1

theorem Ensures.pure {P : α → Prop} {a : α} (h : P a) : Ensures (pure a : StateM σ α) P :=
  fun _ => h

theorem Ensures.bind {P : α → Prop} {Q : β → Prop} {x : StateM σ α} {f : α → StateM σ β}
    (hx : Ensures x P) (hf : ∀ a, P a → Ensures (f a) Q) : Ensures (x >>= f) Q :=
  fun s => hf _ (hx s) _

theorem Ensures.then {Q : β → Prop} {x : StateM σ α} {f : α → StateM σ β}
    (hf : ∀ a, Ensures (f a) Q) : Ensures (x >>= f) Q :=
  fun _ => hf _ _

theorem Ensures.mapM {ι : Type} {P : ι → α → Prop} {f : ι → StateM σ α}
    (hf : ∀ i, Ensures (f i) (P i)) (is : List ι) : Ensures (is.mapM f) (List.Forall₂ P is) := by
  induction is with
  | nil => exact .pure .nil
  | cons i is ih =>
    rw [List.mapM_cons]
    exact (hf i).bind fun a ha => ih.bind fun as has => .pure (.cons ha has)

theorem exists_of_mem {ι : Type} {P : ι → α → Prop} {is : List ι} {as : List α}
    (h : List.Forall₂ P is as) {a : α} (ha : a ∈ as) : ∃ i ∈ is, P i a := by
  induction h with
  | nil => exact nomatch ha
  | @cons i b is as hb _ ih =>
    rcases List.mem_cons.mp ha with rfl | ha
    · exact ⟨i, List.mem_cons_self, hb⟩
    · obtain ⟨j, hj, hja⟩ := ih ha
      exact ⟨j, List.mem_cons_of_mem i hj, hja⟩

/-- Outcomes for different positions differ if positions can be told from them. -/
theorem pairwise_of_forall₂ {P : Nat → α → Prop} {R : α → α → Prop} {is : List Nat} {as : List α}
    (h : List.Forall₂ P is as) (his : is.Nodup) (hR : ∀ i j a b, P i a → P j b → i ≠ j → R a b) :
    as.Pairwise R := by
  induction h with
  | nil => exact .nil
  | cons ha has ih =>
    rw [List.nodup_cons] at his
    refine .cons (fun b hb => ?_) (ih his.2)
    obtain ⟨j, hj, hjb⟩ := exists_of_mem has hb
    exact hR _ _ _ _ ha hjb fun he => his.1 (he ▸ hj)

/-! ### Names -/

/-- One to eight letters. -/
structure IsStem (stem : String) : Prop where
  ne_empty : stem ≠ ""
  length_le : stem.length ≤ 8
  letters : ∀ c ∈ stem.toList, (97 ≤ c.toNat ∧ c.toNat ≤ 122) ∨ (65 ≤ c.toNat ∧ c.toNat ≤ 90)

def marks : List String := ["d", "a"]

def IsName (mark : String) (i : Nat) (s : String) : Prop := ∃ stem, IsStem stem ∧ s = name stem mark i

theorem toList_name (stem mark : String) (i : Nat) : (name stem mark i).toList =
    stem.toList ++ '_' :: (mark.toList ++ (toString i).toList) := by
  simp only [name, String.toList_append, List.append_assoc]
  rfl

theorem isDigit_of_mem_toString {i : Nat} {c : Char} (hc : c ∈ (toString i).toList) :
    48 ≤ c.toNat ∧ c.toNat ≤ 57 := by
  rw [Nat.toString_eq_ofList_toDigits, String.toList_ofList] at hc
  exact Char.isDigit_iff_toNat.mp (Nat.isDigit_of_mem_toDigits (by decide) (by decide) hc)

theorem IsName.wellFormed {mark s : String} {i : Nat} (h : IsName mark i s) (hmark : mark ∈ marks) :
    WellFormedName s := by
  obtain ⟨stem, hstem, rfl⟩ := h
  refine ⟨fun hempty => hstem.ne_empty ?_, fun c hc => ?_⟩
  · rw [name, String.append_assoc, String.append_assoc, String.append_eq_empty_iff] at hempty
    exact hempty.1
  · rw [toList_name, List.mem_append, List.mem_cons, List.mem_append] at hc
    rw [nameChar_iff_toNat]
    rcases hc with hc | rfl | hc | hc
    · have := hstem.letters c hc
      omega
    · decide
    · have hmarks : ∀ mark ∈ marks,
          mark.toList.all (fun c => 97 ≤ c.toNat && c.toNat ≤ 122) = true := by decide
      have hletter := List.all_eq_true.mp (hmarks mark hmark) c hc
      rw [Bool.and_eq_true, decide_eq_true_eq, decide_eq_true_eq] at hletter
      exact .inl hletter
    · have := isDigit_of_mem_toString hc
      omega

/-- A position within capacity has five digits at most, so that no name is long. -/
theorem IsName.length_le {mark s : String} {i : Nat} (h : IsName mark i s) (hmark : mark ∈ marks)
    (hi : i < 65536) : s.length ≤ 15 := by
  obtain ⟨stem, hstem, rfl⟩ := h
  have hmarks : ∀ mark ∈ marks, mark.length = 1 := by decide
  have hdigits : (toString i).length ≤ 5 := by
    rw [Nat.toString_eq_ofList_toDigits, String.length_ofList]
    exact Nat.toDigits_length 10 i 5 (by decide) (Nat.lt_trans hi (by decide))
  have hjoined : (name stem mark i).length =
      stem.length + 1 + mark.length + (toString i).length := by
    simp only [name, String.length_append]
    rfl
  have := hstem.length_le
  rw [hjoined, hmarks mark hmark]
  omega

/-- Behind the first underscore stand the mark and the position. -/
theorem IsName.dropWhile {mark s : String} {i : Nat} (h : IsName mark i s) (hmark : mark ∈ marks) :
    (s.toList.map Char.toLower).dropWhile (· != '_') =
      '_' :: (mark.toList ++ (toString i).toList) := by
  obtain ⟨stem, hstem, rfl⟩ := h
  -- the stem has letters only, so that the first underscore is the one behind it
  have hletters : ∀ c ∈ stem.toList.map Char.toLower, (c != '_') = true := by
    intro c hc
    obtain ⟨d, hd, rfl⟩ := List.mem_map.mp hc
    have hd := hstem.letters d hd
    rw [bne_iff_ne, ne_eq, ← Char.toNat_inj, toNat_toLower]
    split_ifs <;> simp <;> omega
  have hmarks : ∀ mark ∈ marks, mark.toList.map Char.toLower = mark.toList := by decide
  have hdigits : (toString i).toList.map Char.toLower = (toString i).toList := by
    refine (List.map_congr_left fun c hc => ?_).trans (List.map_id _)
    have hc := isDigit_of_mem_toString hc
    rw [id_eq, ← Char.toNat_inj, toNat_toLower, if_neg (by omega)]
  rw [toList_name, List.map_append, List.dropWhile_append_of_pos hletters, List.map_cons,
    List.map_append, hmarks mark hmark, hdigits]
  rfl

theorem IsName.eq_of_sameIgnoringCase {mark mark' s s' : String} {i i' : Nat}
    (h : IsName mark i s) (h' : IsName mark' i' s') (hmark : mark ∈ marks) (hmark' : mark' ∈ marks)
    (hs : SameIgnoringCase s s') : mark = mark' ∧ i = i' := by
  have htail := (congrArg _ hs).symm.trans (h.dropWhile hmark)
  rw [h'.dropWhile hmark', List.cons.injEq] at htail
  have hlength : ∀ mark ∈ marks, mark.toList.length = 1 := by decide
  obtain ⟨hm, hi⟩ := List.append_inj htail.2 ((hlength _ hmark').trans (hlength _ hmark).symm)
  have hnumber := Text.number?_toString i
  rw [← hi, Text.number?_toString, Option.some.injEq] at hnumber
  exact ⟨String.toList_inj.mp hm.symm, hnumber.symm⟩

/-! ### Draws -/

variable {source : Source σ} (h : source.Lawful)
include h

theorem ensures_below {bound : Nat} (hpos : 0 < bound) (hle : bound ≤ UInt32.size) :
    Ensures (source.below bound) (· < bound) :=
  h bound hpos hle

theorem ensures_letter (capital : Bool) : Ensures (letter source capital) fun c =>
    (97 ≤ c.toNat ∧ c.toNat ≤ 122) ∨ (65 ≤ c.toNat ∧ c.toNat ≤ 90) := by
  refine (ensures_below h (by decide) (by decide)).bind fun k hk => .pure ?_
  have hvalid : ∀ n < 128, (Char.ofNat n).toNat = n := by decide
  cases capital with
  | true =>
    rw [if_pos rfl, hvalid _ (by simp; omega)]
    simp
    omega
  | false =>
    rw [if_neg Bool.false_ne_true, hvalid _ (by simp; omega)]
    simp
    omega

/-- A stem has one to eight letters, whatever is drawn. -/
theorem ensures_stem : Ensures (stem source) IsStem := by
  unfold stem
  refine (ensures_below h (by decide) (by decide)).bind fun k hk => .then fun capital => ?_
  refine (Ensures.mapM (fun _ => ensures_letter h capital) _).bind fun cs hcs => .pure ?_
  have hlength : cs.length = 1 + k := by rw [← hcs.length_eq, List.length_range]
  refine ⟨?_, ?_, fun c hc => ?_⟩
  · rw [ne_eq, ← String.toList_eq_nil_iff, String.toList_ofList, ← List.length_eq_zero_iff]
    omega
  · rw [String.length_ofList]
    omega
  · rw [String.toList_ofList] at hc
    obtain ⟨_, -, hletter⟩ := exists_of_mem hcs hc
    exact hletter

theorem ensures_definition (i : Nat) :
    Ensures (definition source i) fun d => IsName "d" i d.name := by
  unfold definition
  refine .then fun half => ?_
  dsimp only
  split <;>
    exact .then fun category => .then fun payload => (ensures_stem h).bind fun stem hstem =>
      .then fun hasDisplay => .pure ⟨stem, hstem, rfl⟩

theorem ensures_sourceAlias {definitions : Array Definition} (hpos : 0 < definitions.size)
    (hle : definitions.size ≤ 65536) (i : Nat) :
    Ensures (sourceAlias source definitions i) fun a =>
      IsName "a" i a.name ∧ a.target ∈ definitions.toList.map (·.name) := by
  have hbound : definitions.size ≤ UInt32.size := Nat.le_trans hle (by decide)
  refine (ensures_below h hpos hbound).bind fun target htarget => ?_
  refine (ensures_stem h).bind fun stem hstem => .pure ⟨⟨stem, hstem, rfl⟩, ?_⟩
  rw [Array.getElem?_eq_getElem htarget, Option.map_some, Option.getD_some]
  exact List.mem_map_of_mem (Array.getElem_mem_toList htarget)

/-- What is known of a table of so many definitions and aliases. -/
structure Drawn (n aliases : Nat) (t : Table) : Prop where
  definitions : List.Forall₂ (fun i d => IsName "d" i d.name) (List.range n) t.definitions
  aliases : List.Forall₂ (fun i a => IsName "a" i a.name ∧ a.target ∈ t.definitions.map (·.name))
    (List.range (if n = 0 then 0 else aliases)) t.aliases

/-- A drawn table has its names in order and only targets of its own. -/
theorem ensures_table {n : Nat} (hn : n ≤ 65536) (aliases : Nat) :
    Ensures (table source n aliases) (Drawn n aliases) := by
  refine (Ensures.mapM (ensures_definition h) _).bind fun rows hrows => ?_
  have hlength : rows.length = n := by rw [← hrows.length_eq, List.length_range]
  dsimp only
  split
  · -- no target can be drawn where there are no definitions
    rename_i hempty
    rw [List.isEmpty_iff.mp hempty, List.length_nil] at hlength
    refine .pure ⟨hrows, ?_⟩
    rw [if_pos hlength.symm]
    exact .nil
  · rename_i hempty
    have hpos : 0 < rows.length := List.length_pos_iff.mpr fun hnil => hempty (by rw [hnil]; rfl)
    refine (Ensures.mapM (ensures_sourceAlias h hpos (Nat.le_trans (Nat.le_of_eq hlength) hn)) _).bind
      fun names hnames => .pure ⟨hrows, ?_⟩
    rw [if_neg (by omega)]
    exact hnames

omit h

variable {n aliases : Nat} {t : Table} (ht : Drawn n aliases t)
include ht

theorem Drawn.length_definitions : t.definitions.length = n := by
  rw [← ht.definitions.length_eq, List.length_range]

theorem Drawn.length_aliases : t.aliases.length = if n = 0 then 0 else aliases := by
  rw [← ht.aliases.length_eq, List.length_range]

/-- No two names of a drawn table share a constant: the mark and the position differ. -/
theorem Drawn.acceptable (hn : n ≤ 65536) : t.Acceptable where
  withinCapacity := ht.length_definitions ▸ hn
  wellFormed name hname := by
    rcases List.mem_append.mp hname with hname | hname
    · obtain ⟨d, hd, rfl⟩ := List.mem_map.mp hname
      obtain ⟨i, -, hi⟩ := exists_of_mem ht.definitions hd
      exact hi.wellFormed (by decide)
    · obtain ⟨a, ha, rfl⟩ := List.mem_map.mp hname
      obtain ⟨i, -, hi, -⟩ := exists_of_mem ht.aliases ha
      exact hi.wellFormed (by decide)
  distinct := by
    have hmarks : "d" ∈ marks ∧ "a" ∈ marks := by decide
    rw [Table.names, List.pairwise_append, List.pairwise_map, List.pairwise_map]
    refine ⟨?_, ?_, ?_⟩
    · refine pairwise_of_forall₂ ht.definitions List.nodup_range fun i j d e hd he hne hsame => ?_
      exact hne (hd.eq_of_sameIgnoringCase he hmarks.1 hmarks.1 hsame).2
    · refine pairwise_of_forall₂ ht.aliases List.nodup_range fun i j a b ha hb hne hsame => ?_
      exact hne (ha.1.eq_of_sameIgnoringCase hb.1 hmarks.2 hmarks.2 hsame).2
    · -- the mark tells a definition from an alias
      intro name hname name' hname' hsame
      obtain ⟨d, hd, rfl⟩ := List.mem_map.mp hname
      obtain ⟨a, ha, rfl⟩ := List.mem_map.mp hname'
      obtain ⟨i, -, hi⟩ := exists_of_mem ht.definitions hd
      obtain ⟨j, -, hj, -⟩ := exists_of_mem ht.aliases ha
      exact absurd (hi.eq_of_sameIgnoringCase hj hmarks.1 hmarks.2 hsame).1 (by decide)
  resolved a ha := by
    obtain ⟨i, -, -, htarget⟩ := exists_of_mem ht.aliases ha
    exact htarget

end Lexicon.Random
