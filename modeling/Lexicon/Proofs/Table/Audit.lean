import Lexicon.Proofs.Fallible
import Lexicon.Table.Audit

namespace Lexicon

/-- Everything that an audit looks at. -/
structure Compiled.Audited (t : Table) (c : Compiled) : Prop where
  count : c.size = t.definitions.length
  numbered : ∀ i (e : Entry), c.entries[i]? = some e → e.id = .ofPosition i
  boundaryInside : c.BoundaryInside
  keywordCount : c.size - c.firstKeyword.position = t.keywordCount
  front : ∀ e ∈ c.entries.take c.firstKeyword.position, e.definition.isKeyword = false
  keywords : ∀ e ∈ c.entries.drop c.firstKeyword.position, e.definition.isKeyword = true
  ascending : (c.entries.drop c.firstKeyword.position).Pairwise
    fun a b => Text.utf8 a.definition.name < Text.utf8 b.definition.name
  authorOrder : t.nonKeywords.map (·.name) =
    (c.entries.take c.firstKeyword.position).map (·.definition.name)
  distinct : (c.entries.map (·.definition.name)).Nodup
  aliasCount : c.aliases.length = t.aliases.length
  targets : ∀ a ∈ c.aliases, ∃ e, c.entries[a.id.position]? = some e ∧
    e.definition.name = a.source.target

namespace Audit

theorem then_eq_ok_iff {x : Verdict} {rest : Unit → Verdict} :
    (x >>= rest) = .ok () ↔ x = .ok () ∧ rest () = .ok () := by
  rw [Fallible.bind_eq_ok_iff]
  exact ⟨fun ⟨_, h⟩ => h, fun h => ⟨(), h⟩⟩

theorem orHalt_then_eq_ok_iff {α : Type} {o : Option α} {rest : α → Verdict} :
    (orHalt o >>= rest) = .ok () ↔ ∃ a, o = some a ∧ rest a = .ok () := by
  simp only [Fallible.bind_eq_ok_iff, orHalt_eq_ok_iff]

theorem require_eq_ok_iff {holds : Bool} {v : Violation} :
    require holds v = .ok () ↔ holds = true := by
  unfold require
  split
  · next h => exact iff_of_true rfl h
  · next h => exact iff_of_false nofun h

theorem refuse_eq_ok_iff {entries : List Entry} {isWrong : Entry → Bool} {v : Entry → Violation} :
    refuse entries isWrong v = .ok () ↔ ∀ e ∈ entries, isWrong e = false := by
  unfold refuse
  split
  · next e h =>
    refine iff_of_false nofun (fun hall => ?_)
    have hwrong := List.find?_some h
    rw [hall e (List.mem_of_find?_eq_some h)] at hwrong
    exact nomatch hwrong
  · next h =>
    simp only [List.find?_eq_none, Bool.not_eq_true] at h
    exact iff_of_true rfl h

theorem forM_eq_ok_iff {α : Type} {check : α → Verdict} {xs : List α} :
    xs.forM check = .ok () ↔ ∀ x ∈ xs, check x = .ok () := by
  induction xs with
  | nil => exact iff_of_true rfl nofun
  | cons x xs ih =>
    change (check x >>= fun _ => xs.forM check) = .ok () ↔ _
    rw [then_eq_ok_iff, ih, List.forall_mem_cons]

/-- The payload of an entry always survives, so only its identifier can be at fault. -/
theorem checkEntry_eq_ok_iff {e : Entry} {i : Nat} :
    checkEntry e i = .ok () ↔ e.id = .ofPosition i := by
  unfold checkEntry
  rw [then_eq_ok_iff, require_eq_ok_iff, require_eq_ok_iff, Payload.decode?_encode,
    beq_self_eq_true, beq_iff_eq]
  exact and_iff_left rfl

/-- Neighbours that ascend are enough, since the order is transitive. -/
theorem checkAscending_eq_ok_iff {entries : List Entry} :
    checkAscending entries = .ok () ↔
      entries.Pairwise fun a b => Text.utf8 a.definition.name < Text.utf8 b.definition.name := by
  -- the check compares neighbours only
  fun_induction checkAscending entries with
  | case1 a b rest ih =>
    rw [then_eq_ok_iff, require_eq_ok_iff, decide_eq_true_eq, ih, List.pairwise_cons (a := a)]
    constructor
    · rintro ⟨hab, htail⟩
      refine ⟨fun c hc => ?_, htail⟩
      -- what comes later is above `b`, and so above `a`
      rcases List.mem_cons.mp hc with rfl | hc
      · exact hab
      · exact List.lt_trans hab ((List.pairwise_cons.mp htail).1 c hc)
    · rintro ⟨ha, htail⟩
      exact ⟨ha b List.mem_cons_self, htail⟩
  | case2 entries hshort =>
    refine iff_of_true rfl ?_
    match entries, hshort with
    | [], _ => exact List.Pairwise.nil
    | [a], _ => exact List.pairwise_singleton _ a
    | a :: b :: rest, h => exact absurd rfl (h a b rest)

/-- No name is repeated, neither in what is left nor from what has been seen. -/
theorem checkDistinct_eq_ok_iff {seen : Std.HashSet String} {entries : List Entry} :
    checkDistinct seen entries = .ok () ↔
      (entries.map (·.definition.name)).Nodup ∧
        ∀ e ∈ entries, seen.contains e.definition.name = false := by
  induction entries generalizing seen with
  | nil => exact iff_of_true rfl ⟨List.nodup_nil, nofun⟩
  | cons e rest ih =>
    rw [checkDistinct, List.map_cons, List.nodup_cons, List.forall_mem_cons]
    by_cases h : seen.contains e.definition.name = true
    · rw [if_pos h]
      exact iff_of_false nofun (fun h' => Bool.false_ne_true (h'.2.1.symm.trans h))
    · rw [if_neg h, ih]
      simp only [Std.HashSet.contains_insert, Bool.or_eq_false_iff, beq_eq_false_iff_ne,
        List.mem_map, not_exists, not_and, Bool.eq_false_iff.mpr h, true_and]
      -- behind the entry its name counts as seen as well
      constructor
      · rintro ⟨hnodup, hrest⟩
        exact ⟨⟨fun x hx he => (hrest x hx).1 he.symm, hnodup⟩, fun x hx => (hrest x hx).2⟩
      · rintro ⟨⟨hfresh, hnodup⟩, hrest⟩
        exact ⟨hnodup, fun x hx => ⟨fun he => hfresh x hx he.symm, hrest x hx⟩⟩

theorem checkAlias_eq_ok_iff {entries : List Entry} {a : AliasEntry} :
    checkAlias entries a = .ok () ↔
      ∃ e, entries[a.id.position]? = some e ∧ e.definition.name = a.source.target := by
  unfold checkAlias
  split
  · next h => exact iff_of_false nofun (fun ⟨e, he, _⟩ => nomatch h.symm.trans he)
  · next e h =>
    rw [require_eq_ok_iff, beq_iff_eq, h]
    simp only [Option.some.injEq, exists_eq_left']

end Audit

open Audit Bounded in
/-- An audit reports nothing exactly if everything that it looks at is in order. -/
theorem Compiled.audit_eq_ok_iff (t : Table) (c : Compiled) : c.audit t = .ok () ↔ c.Audited t := by
  unfold Compiled.audit
  simp only [then_eq_ok_iff, orHalt_then_eq_ok_iff, require_eq_ok_iff, refuse_eq_ok_iff, forM_eq_ok_iff, checkAscending_eq_ok_iff, checkDistinct_eq_ok_iff,
    checkEntry_eq_ok_iff, checkAlias_eq_ok_iff, beq_iff_eq, decide_eq_true_eq,
    Std.HashSet.contains_empty, Bool.not_eq_false']
  -- the loop over the entries goes by pairs of an entry and its position
  have hnumbered : (∀ p ∈ c.entries.zipIdx, p.1.id = .ofPosition p.2) ↔
      ∀ i (e : Entry), c.entries[i]? = some e → e.id = .ofPosition i := by
    simp only [Prod.forall, List.mem_zipIdx_iff_getElem?]
    exact forall_comm
  rw [hnumbered]
  constructor
  · rintro ⟨hcount, hids, hinside, found, hfound, hkeywordCount, front, hfront, hnone, keywords,
      hkeywords, hall, ascending, hascending, hpairwise, emitted, hemitted, horder,
      ⟨hdistinct, -⟩, haliasCount, htargets⟩
    -- whatever is taken behind the third check is there
    obtain rfl := Option.some.inj ((minus?_of_le hinside).symm.trans hfound)
    obtain rfl := Option.some.inj ((front?_of_le hinside).symm.trans hfront)
    obtain rfl := Option.some.inj ((front?_of_le hinside).symm.trans hemitted)
    obtain rfl := Option.some.inj ((keywords?_of_boundaryInside hinside).symm.trans hkeywords)
    obtain rfl := Option.some.inj ((keywords?_of_boundaryInside hinside).symm.trans hascending)
    exact ⟨hcount, hids, hinside, hkeywordCount, hnone, hall, hpairwise, horder, hdistinct,
      haliasCount, htargets⟩
  · intro h
    have hinside := h.boundaryInside
    have hkeywords := keywords?_of_boundaryInside hinside
    exact ⟨h.count, h.numbered, hinside, _, minus?_of_le hinside, h.keywordCount, _,
      front?_of_le hinside, h.front, _, hkeywords, h.keywords, _, hkeywords, h.ascending, _,
      front?_of_le hinside, h.authorOrder, ⟨h.distinct, fun _ _ => trivial⟩, h.aliasCount,
      h.targets⟩

end Lexicon
