import Lexicon.Proofs.Fallible
import Lexicon.Proofs.Table.Layout
import Lexicon.Proofs.Table.Numbering

namespace Lexicon

/-! ### The order of definitions -/

namespace Definition

variable {xs ys : List Definition}

theorem utf8_name_le_of_first {a d : Definition}
    (h : (a :: xs).Pairwise fun a b => nameLE a b = true) (hd : d ∈ a :: xs) :
    Text.utf8 a.name ≤ Text.utf8 d.name := by
  rcases List.mem_cons.mp hd with rfl | hd
  · exact List.le_refl _
  · have hle := List.rel_of_pairwise_cons h hd
    exact of_decide_eq_true hle

theorem mem_iff_of_filter_name
    (h : ∀ name, xs.filter (·.name == name) = ys.filter (·.name == name)) (d : Definition) :
    d ∈ xs ↔ d ∈ ys := by
  have hclass : d ∈ xs.filter (·.name == d.name) ↔ d ∈ ys.filter (·.name == d.name) := by
    rw [h]
  simpa only [List.mem_filter, beq_self_eq_true, and_true] using hclass

/-- Sorted definitions are known by their names and by the order within each name. -/
theorem eq_of_sorted (hxs : xs.Pairwise fun a b => nameLE a b = true)
    (hys : ys.Pairwise fun a b => nameLE a b = true)
    (h : ∀ name, xs.filter (·.name == name) = ys.filter (·.name == name)) : xs = ys := by
  have hmem := mem_iff_of_filter_name h
  induction xs generalizing ys with
  | nil =>
    have hnil : ys = [] := by
      apply List.eq_nil_iff_forall_not_mem.mpr
      intro d hd
      exact List.not_mem_nil ((hmem d).mpr hd)
    exact hnil.symm
  | cons a xs ih =>
    cases ys with
    | nil => exact absurd ((hmem a).mp List.mem_cons_self) List.not_mem_nil
    | cons b ys =>
      -- each of the firsts is a member of the other list, so neither name comes before the other
      have hab : Text.utf8 a.name ≤ Text.utf8 b.name :=
        utf8_name_le_of_first hxs ((hmem b).mpr List.mem_cons_self)
      have hba : Text.utf8 b.name ≤ Text.utf8 a.name :=
        utf8_name_le_of_first hys ((hmem a).mp List.mem_cons_self)
      have hname : b.name = a.name := Text.utf8_injective (List.le_antisymm hba hab)
      have hclass (name : String) (hn : a.name = name) :
          a = b ∧ xs.filter (·.name == name) = ys.filter (·.name == name) := by
        have ha : (a.name == name) = true := beq_iff_eq.mpr hn
        have hb : (b.name == name) = true := beq_iff_eq.mpr (hname.trans hn)
        have hfilter := h name
        rw [List.filter_cons, List.filter_cons, if_pos ha, if_pos hb] at hfilter
        exact List.cons.inj hfilter
      obtain rfl : a = b := (hclass a.name rfl).1
      -- without its first, the class of this name is still the same, and no other has changed
      have htails : ∀ name, xs.filter (·.name == name) = ys.filter (·.name == name) := by
        intro name
        by_cases ha : (a.name == name) = true
        · exact (hclass name (beq_iff_eq.mp ha)).2
        · have hfilter := h name
          rw [List.filter_cons, List.filter_cons, if_neg ha, if_neg ha] at hfilter
          exact hfilter
      rw [ih hxs.of_cons hys.of_cons htails (mem_iff_of_filter_name htails)]

/-- Sorting by name leaves the definitions of one name in their order. -/
theorem filter_name_mergeSort (xs : List Definition) (name : String) :
    (xs.mergeSort nameLE).filter (·.name == name) = xs.filter (·.name == name) := by
  have hclass : (xs.filter (·.name == name)).Pairwise fun a b => nameLE a b = true := by
    rw [List.pairwise_filter]
    apply List.pairwise_of_forall
    intro a b ha hb
    have hname : a.name = b.name := (beq_iff_eq.mp ha).trans (beq_iff_eq.mp hb).symm
    rw [nameLE, hname, decide_eq_true_eq]
    exact List.le_refl _
  -- what is sorted already goes through the sort as it is
  have hkept : (xs.filter (·.name == name)).Sublist (xs.mergeSort nameLE) :=
    List.sublist_mergeSort nameLE_trans nameLE_total hclass List.filter_sublist
  have hsublist := hkept.filter (·.name == name)
  rw [List.filter_filter] at hsublist
  simp only [Bool.and_self] at hsublist
  have hlength := ((List.mergeSort_perm xs nameLE).filter (·.name == name)).length_eq
  exact (hsublist.eq_of_length hlength.symm).symm

end Definition

namespace Layout

/-- The others in the author's order, and behind them the keywords in the order of the bytes of
their names, those of one name in the author's order. -/
structure Arranges (l : Layout) (definitions : List Definition) : Prop where
  permuted : l.tokens.Perm definitions
  boundary : l.firstKeyword = definitions.countP (!·.isKeyword)
  front : l.tokens.take l.firstKeyword = definitions.filter (!·.isKeyword)
  keywords : (l.tokens.drop l.firstKeyword).Perm (definitions.filter (·.isKeyword))
  ascending : (l.tokens.drop l.firstKeyword).Pairwise
    fun a b => Text.utf8 a.name ≤ Text.utf8 b.name
  stable : ∀ name, (l.tokens.drop l.firstKeyword).filter (·.name == name) =
    (definitions.filter (·.isKeyword)).filter (·.name == name)

theorem arranges_ofDefinitions (definitions : List Definition) :
    (ofDefinitions definitions).Arranges definitions where
  permuted := tokens_perm definitions
  boundary := List.countP_eq_length_filter.symm
  front := take_firstKeyword definitions
  keywords := keywords_perm definitions
  ascending := by
    apply (keywords_sorted definitions).imp
    intro a b h
    exact of_decide_eq_true h
  stable name := by
    rw [drop_firstKeyword]
    exact Definition.filter_name_mergeSort _ name

namespace Arranges

variable {l l' : Layout} {definitions : List Definition} (h : l.Arranges definitions)
include h

theorem sorted : (l.tokens.drop l.firstKeyword).Pairwise
    fun a b => Definition.nameLE a b = true := by
  apply h.ascending.imp
  intro a b hab
  exact decide_eq_true hab

theorem unique (h' : l'.Arranges definitions) : l = l' := by
  have hfirst : l.firstKeyword = l'.firstKeyword := h.boundary.trans h'.boundary.symm
  have hfront : l.tokens.take l.firstKeyword = l'.tokens.take l'.firstKeyword :=
    h.front.trans h'.front.symm
  have hback : l.tokens.drop l.firstKeyword = l'.tokens.drop l'.firstKeyword := by
    apply Definition.eq_of_sorted h.sorted h'.sorted
    intro name
    rw [h.stable, h'.stable]
  have htokens : l.tokens = l'.tokens := by
    rw [← List.take_append_drop l.firstKeyword l.tokens, hfront, hback, List.take_append_drop]
  exact congrArg₂ Layout.mk htokens hfirst

/-- What is arranged is in the right order itself. -/
theorem arranges_tokens : l.Arranges l.tokens := by
  -- the boundary separates by kind, so that telling the kinds apart once more takes the same halves
  have hfront : ∀ d ∈ l.tokens.take l.firstKeyword, d.isKeyword = false := by
    intro d hd
    rw [h.front, List.mem_filter, Bool.not_eq_true'] at hd
    exact hd.2
  have hback : ∀ d ∈ l.tokens.drop l.firstKeyword, d.isKeyword = true := by
    intro d hd
    rw [h.keywords.mem_iff, List.mem_filter] at hd
    exact hd.2
  have hsplit := List.take_append_drop l.firstKeyword l.tokens
  have hothers : l.tokens.filter (!·.isKeyword) = l.tokens.take l.firstKeyword := by
    rw [← hsplit, List.filter_append, hsplit, List.filter_eq_self.mpr, List.filter_eq_nil_iff.mpr,
      List.append_nil]
    · intro d hd
      rw [hback d hd]
      decide
    · intro d hd
      rw [hfront d hd]
      rfl
  have hkeywords : l.tokens.filter (·.isKeyword) = l.tokens.drop l.firstKeyword := by
    rw [← hsplit, List.filter_append, hsplit, List.filter_eq_nil_iff.mpr,
      List.filter_eq_self.mpr hback, List.nil_append]
    intro d hd
    rw [hfront d hd]
    decide
  constructor
  case permuted => exact List.Perm.refl _
  case boundary => rw [h.boundary, h.permuted.countP_eq]
  case front => exact hothers.symm
  case keywords => rw [hkeywords]
  case ascending => exact h.ascending
  case stable =>
    intro name
    rw [hkeywords]

end Arranges

theorem arranges_iff (l : Layout) (definitions : List Definition) :
    l.Arranges definitions ↔ l = ofDefinitions definitions := by
  constructor
  · intro h
    exact h.unique (arranges_ofDefinitions definitions)
  · rintro rfl
    exact arranges_ofDefinitions definitions

theorem ofDefinitions_tokens (definitions : List Definition) :
    ofDefinitions (ofDefinitions definitions).tokens = ofDefinitions definitions := by
  have h := arranges_ofDefinitions definitions
  exact ((arranges_iff _ _).mp h.arranges_tokens).symm

end Layout

/-! ### Identifiers -/

namespace Entry

/-- Entries for definitions, one for each in their order, with their positions as identifiers. -/
structure Numbers (entries : List Entry) (tokens : List Definition) : Prop where
  definitions : entries.map (·.definition) = tokens
  positions : ∀ i (e : Entry), entries[i]? = some e → e.id.position = i

variable {tokens : List Definition}

theorem numbers_byPosition (h : tokens.length ≤ 65536) : Numbers (byPosition tokens) tokens where
  definitions := map_definition_byPosition tokens
  positions i e he := by
    rw [getElem?_byPosition] at he
    obtain ⟨d, hd, rfl⟩ := Option.map_eq_some_iff.mp he
    have hi : i < tokens.length := (List.getElem?_eq_some_iff.mp hd).1
    exact TokenId.position_ofPosition (by omega)

/-- Numbering has one outcome only, as long as the identifiers suffice. -/
theorem Numbers.eq_byPosition {entries : List Entry} (h : Numbers entries tokens)
    (hcapacity : tokens.length ≤ 65536) : entries = byPosition tokens := by
  apply List.ext_getElem?
  intro i
  rw [getElem?_byPosition, ← h.definitions, List.getElem?_map, Option.map_map]
  cases he : entries[i]? with
  | none => rfl
  | some e =>
    have hi : i < entries.length := (List.getElem?_eq_some_iff.mp he).1
    have hlength := congrArg List.length h.definitions
    rw [List.length_map] at hlength
    -- within capacity no two positions have the same identifier
    have hid : e.id = .ofPosition i := by
      apply TokenId.position_injective
      rw [h.positions i e he, TokenId.position_ofPosition (by omega)]
    rw [Option.map_some, Function.comp_apply, ← hid]

theorem number_eq_ok_iff (tokens : List Definition) (entries : List Entry) :
    number tokens = .ok entries ↔ tokens.length ≤ 65536 ∧ Numbers entries tokens := by
  constructor
  · intro h
    rw [number] at h
    split at h
    · cases h
    · next hcapacity =>
      have hle : tokens.length ≤ 65536 := Nat.not_lt.mp hcapacity
      cases h
      exact ⟨hle, numbers_byPosition hle⟩
  · rintro ⟨hle, h⟩
    rw [number_of_le hle, h.eq_byPosition hle]

theorem number_eq_error_iff (tokens : List Definition) (e : SchemaError) :
    number tokens = .error e ↔ 65536 < tokens.length ∧ e = .tooManyTokens tokens.length 65535 := by
  rw [number]
  split
  · next hmany =>
    constructor
    · intro h
      exact ⟨hmany, (Except.error.inj h).symm⟩
    · rintro ⟨-, rfl⟩
      rfl
  · next hfew =>
    constructor
    · intro h
      cases h
    · rintro ⟨hmany, -⟩
      exact absurd hmany hfew

def IsLastNamed (entries : List Entry) (name : String) (e : Entry) : Prop :=
  ∃ before behind, entries = before ++ e :: behind ∧ e.definition.name = name ∧
    ∀ e' ∈ behind, e'.definition.name ≠ name

/-- The search from the end finds the last entry of a name. -/
theorem lastNamed?_eq_some_iff (entries : List Entry) (name : String) (e : Entry) :
    lastNamed? entries name = some e ↔ IsLastNamed entries name e := by
  rw [lastNamed?, List.find?_eq_some_iff_append, beq_iff_eq]
  constructor
  · rintro ⟨hname, behind, before, hentries, hbehind⟩
    -- the search runs from the end, so what it has passed over stands behind the entry
    refine ⟨before.reverse, behind.reverse, ?_, hname, ?_⟩
    · have hreverse := congrArg List.reverse hentries
      rw [List.reverse_reverse, List.reverse_append, List.reverse_cons, List.append_assoc]
        at hreverse
      exact hreverse
    · intro e' he'
      have hpassed := hbehind e' (List.mem_reverse.mp he')
      rw [Bool.not_eq_true', beq_eq_false_iff_ne] at hpassed
      exact hpassed
  · rintro ⟨before, behind, rfl, hname, hbehind⟩
    refine ⟨hname, behind.reverse, before.reverse, ?_, ?_⟩
    · rw [List.reverse_append, List.reverse_cons, List.append_assoc]
      rfl
    · intro e' he'
      rw [Bool.not_eq_true', beq_eq_false_iff_ne]
      exact hbehind e' (List.mem_reverse.mp he')

end Entry

/-! ### Aliases -/

namespace AliasEntry

/-- An alias with the identifier of the last entry that has its target's name. -/
def PointsInto (entries : List Entry) (a : Alias) (r : AliasEntry) : Prop :=
  r.source = a ∧ ∃ e, Entry.IsLastNamed entries a.target e ∧ r.id = e.id

variable {entries : List Entry}

/-- An alias is resolved to the last entry that has its target for a name. -/
theorem resolveIn_eq_ok_iff (a : Alias) (r : AliasEntry) :
    resolveIn (Entry.index entries) a = .ok r ↔ PointsInto entries a r := by
  -- the index keeps the last entry of each name
  rw [resolveIn, Entry.getElem?_index, PointsInto]
  simp only [← Entry.lastNamed?_eq_some_iff]
  cases Entry.lastNamed? entries a.target with
  | none =>
    constructor
    · intro h
      cases h
    · rintro ⟨-, e, he, -⟩
      cases he
  | some e =>
    rw [Option.map_some]
    constructor
    · intro h
      cases h
      exact ⟨rfl, e, rfl, rfl⟩
    · rintro ⟨rfl, e', he', hid⟩
      cases he'
      rw [← hid]

theorem resolve_eq_ok_iff (entries : List Entry) (aliases : List Alias)
    (resolved : List AliasEntry) :
    resolve entries aliases = .ok resolved ↔
      List.Forall₂ (PointsInto entries) aliases resolved := by
  rw [resolve, Fallible.mapM_eq_ok_iff]
  simp only [resolveIn_eq_ok_iff]

def HasTarget (entries : List Entry) (a : Alias) : Prop :=
  ∃ e ∈ entries, e.definition.name = a.target

theorem hasTarget_iff (entries : List Entry) (a : Alias) :
    HasTarget entries a ↔ a.target ∈ entries.map (·.definition.name) := by
  rw [List.mem_map, HasTarget]

/-- Only an alias without a target is at fault. -/
theorem targetFault?_eq_some_iff (a : Alias) (e : SchemaError) :
    targetFault? (entries.map (·.definition.name)) a = some e ↔
      ¬HasTarget entries a ∧ e = .unresolvedAlias a.name a.target := by
  rw [hasTarget_iff, targetFault?]
  split
  · next htarget =>
    constructor
    · exact nofun
    · rintro ⟨hnone, -⟩
      exact absurd htarget hnone
  · next hnone =>
    constructor
    · intro h
      exact ⟨hnone, (Option.some.inj h).symm⟩
    · rintro ⟨-, rfl⟩
      rfl

theorem resolve_eq_error_iff_firstFault (entries : List Entry) (aliases : List Alias)
    (e : SchemaError) : resolve entries aliases = .error e ↔
      FirstFault (fun _ a => targetFault? (entries.map (·.definition.name)) a) aliases e := by
  rcases resolve_outcome entries aliases with ⟨hok, hnone⟩ | ⟨e', herror, hfault⟩
  · rw [hok]
    constructor
    · exact nofun
    · intro h
      exact absurd ((faultless_iff_forall _ _).mpr hnone) h.not_faultless
  · rw [herror]
    constructor
    · intro h
      rw [← Except.error.inj h]
      exact hfault
    · intro h
      rw [hfault.unique h]

/-- What is reported is the first alias without a target. -/
theorem resolve_eq_error_iff (entries : List Entry) (aliases : List Alias) (e : SchemaError) :
    resolve entries aliases = .error e ↔ ∃ before a behind, aliases = before ++ a :: behind ∧
      (∀ b ∈ before, HasTarget entries b) ∧ ¬HasTarget entries a ∧
        e = .unresolvedAlias a.name a.target := by
  rw [resolve_eq_error_iff_firstFault, FirstFault]
  simp only [faultless_iff_forall, targetFault?_eq_none_iff, targetFault?_eq_some_iff,
    hasTarget_iff]

end AliasEntry

/-- What the stages do without a validation before them. The order of definitions is known by its
properties, and to order what is in order changes nothing. Numbering fails beyond capacity only, and
resolution at the first alias whose target is the name of no entry. -/
theorem Table.stages_unvalidated :
    (∀ (definitions : List Definition) (l : Layout),
      l.Arranges definitions ↔ l = Layout.ofDefinitions definitions) ∧
    (∀ definitions : List Definition,
      Layout.ofDefinitions (Layout.ofDefinitions definitions).tokens =
        Layout.ofDefinitions definitions) ∧
    (∀ (tokens : List Definition) (entries : List Entry),
      Entry.number tokens = .ok entries ↔ tokens.length ≤ 65536 ∧ Entry.Numbers entries tokens) ∧
    (∀ (tokens : List Definition) (e : SchemaError), Entry.number tokens = .error e ↔
      65536 < tokens.length ∧ e = .tooManyTokens tokens.length 65535) ∧
    (∀ (entries : List Entry) (aliases : List Alias) (resolved : List AliasEntry),
      AliasEntry.resolve entries aliases = .ok resolved ↔
        List.Forall₂ (AliasEntry.PointsInto entries) aliases resolved) ∧
    ∀ (entries : List Entry) (aliases : List Alias) (e : SchemaError),
      AliasEntry.resolve entries aliases = .error e ↔
        ∃ before a behind, aliases = before ++ a :: behind ∧
          (∀ b ∈ before, AliasEntry.HasTarget entries b) ∧ ¬AliasEntry.HasTarget entries a ∧
            e = .unresolvedAlias a.name a.target := by
  refine ⟨?_, ?_, ?_, ?_, ?_, ?_⟩
  · intro definitions l
    exact Layout.arranges_iff l definitions
  · exact Layout.ofDefinitions_tokens
  · exact Entry.number_eq_ok_iff
  · exact Entry.number_eq_error_iff
  · exact AliasEntry.resolve_eq_ok_iff
  · exact AliasEntry.resolve_eq_error_iff

end Lexicon
