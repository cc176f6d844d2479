import Lexicon.Table.SchemaError

/-! Lists whose members are judged one after the other, each in the light of those before it, up to
the first fault. A loop that keeps what it needs of the earlier members reports exactly that
fault. -/
namespace Lexicon

/-- What is wrong with a member of a list, given the members before it. -/
abbrev Judge (α : Type) := List α → α → Option SchemaError

variable {α β σ : Type}

/-- No member of a list has a fault. -/
def Faultless (judge : Judge α) (xs : List α) : Prop :=
  ∀ before x after, xs = before ++ x :: after → judge before x = none

/-- The first member of a list that has a fault has this one. -/
def FirstFault (judge : Judge α) (xs : List α) (e : SchemaError) : Prop :=
  ∃ before x after, xs = before ++ x :: after ∧ Faultless judge before ∧ judge before x = some e

theorem faultless_nil (judge : Judge α) : Faultless judge [] := by
  intro before x after h
  exact absurd (congrArg List.length h) (by simp)

/-- One more member is judged in the light of all before it. -/
theorem faultless_concat_iff (judge : Judge α) (xs : List α) (x : α) :
    Faultless judge (xs ++ [x]) ↔ Faultless judge xs ∧ judge xs x = none := by
  constructor
  · intro h
    refine ⟨fun before y after hy => h before y (after ++ [x]) (by rw [hy]; simp), h xs x [] rfl⟩
  · rintro ⟨hs, hx⟩ before y after h
    -- either `y` is the new member, or it stands in `xs`
    rcases List.eq_nil_or_concat after with rfl | ⟨after, z, rfl⟩
    · obtain ⟨rfl, hxy⟩ := List.append_inj' h rfl
      rw [← List.head_eq_of_cons_eq hxy]
      exact hx
    · apply hs before y after
      rw [List.concat_eq_append, ← List.cons_append, ← List.append_assoc] at h
      exact (List.append_inj' h rfl).1

/-- A list with a first fault is not faultless, however it goes on. -/
theorem FirstFault.not_faultless {judge : Judge α} {xs : List α} {e : SchemaError}
    (h : FirstFault judge xs e) : ¬ Faultless judge xs := by
  obtain ⟨before, x, after, hxs, _, hx⟩ := h
  intro hf
  rw [hf before x after hxs] at hx
  exact nomatch hx

/-- What follows a fault is not reached, so a fault that is reached is the same one. -/
theorem fault_eq_of_append {judge : Judge α} {before middle after after' : List α} {x x' : α}
    {e e' : SchemaError} (hf : Faultless judge (before ++ middle)) (hx : judge before x = some e)
    (hx' : judge (before ++ middle) x' = some e') (h : x :: after = middle ++ x' :: after') :
    e = e' := by
  cases middle with
  | nil =>
    obtain ⟨rfl, -⟩ := List.cons.inj h
    rw [List.append_nil, hx] at hx'
    exact Option.some.inj hx'
  | cons y middle =>
    -- the earlier fault would lie in the faultless part
    obtain ⟨rfl, -⟩ := List.cons.inj h
    rw [hf before x middle rfl] at hx
    exact nomatch hx

theorem FirstFault.unique {judge : Judge α} {xs : List α} {e e' : SchemaError}
    (h : FirstFault judge xs e) (h' : FirstFault judge xs e') : e = e' := by
  obtain ⟨before, x, after, hxs, hf, hx⟩ := h
  obtain ⟨before', x', after', hxs', hf', hx'⟩ := h'
  -- one of the two parts before a fault begins the other
  rcases List.append_eq_append_iff.mp (hxs.symm.trans hxs') with
    ⟨middle, rfl, hrest⟩ | ⟨middle, rfl, hrest⟩
  · exact fault_eq_of_append hf' hx hx' hrest
  · exact (fault_eq_of_append hf hx' hx hrest).symm

/-- One turn of a loop that goes by what it has kept of the earlier members: it stops with the fault
of the next member, or it goes on and keeps what the next turn needs. -/
structure Follows (step : σ → α → Except SchemaError σ) (judge : Judge α)
    (kept : List α → σ → Prop) : Prop where
  stops : ∀ before s x e, kept before s → judge before x = some e → step s x = .error e
  goesOn : ∀ before s x, kept before s → judge before x = none →
    ∃ s', step s x = .ok s' ∧ kept (before ++ [x]) s'

/-- A whole loop ends with what is kept of a faultless list, or with the first fault. -/
theorem Follows.foldlM {step : σ → α → Except SchemaError σ} {judge : Judge α}
    {kept : List α → σ → Prop}
    (h : Follows step judge kept) (xs : List α) {before : List α} {s : σ} (hs : kept before s)
    (hb : Faultless judge before) :
    (∃ s', xs.foldlM step s = .ok s' ∧ kept (before ++ xs) s' ∧ Faultless judge (before ++ xs)) ∨
      ∃ e, xs.foldlM step s = .error e ∧ FirstFault judge (before ++ xs) e := by
  induction xs generalizing before s with
  | nil => exact Or.inl ⟨s, rfl, by rwa [List.append_nil], by rwa [List.append_nil]⟩
  | cons x xs ih =>
    rw [List.foldlM_cons]
    cases hx : judge before x with
    | some e =>
      rw [h.stops before s x e hs hx]
      exact Or.inr ⟨e, rfl, before, x, xs, rfl, hb, hx⟩
    | none =>
      -- `x` now counts among the members before the rest
      obtain ⟨s', hstep, hs'⟩ := h.goesOn before s x hs hx
      rw [hstep, List.append_cons]
      exact ih hs' ((faultless_concat_iff judge before x).mpr ⟨hb, hx⟩)

/-- A judgement that does not look at the earlier members. -/
theorem faultless_iff_forall (fault? : α → Option SchemaError) (xs : List α) :
    Faultless (fun _ x => fault? x) xs ↔ ∀ x ∈ xs, fault? x = none := by
  constructor
  · intro h x hx
    obtain ⟨before, after, hxs⟩ := List.append_of_mem hx
    exact h before x after hxs
  · intro h before x after hxs
    exact h x (by rw [hxs]; simp)

/-- Mapping stops at the first member with a fault, and otherwise answers for all of them in
order. -/
theorem mapM_outcome (f : α → Except SchemaError β) (fault? : α → Option SchemaError)
    (answer? : α → Option β)
    (stops : ∀ x e, fault? x = some e → f x = .error e)
    (goesOn : ∀ x, fault? x = none → ∃ y, f x = .ok y ∧ answer? x = some y) (xs : List α) :
    (xs.mapM f = .ok (xs.filterMap answer?) ∧ ∀ x ∈ xs, fault? x = none) ∨
      ∃ e, xs.mapM f = .error e ∧ FirstFault (fun _ x => fault? x) xs e := by
  induction xs with
  | nil => exact Or.inl ⟨rfl, nofun⟩
  | cons x xs ih =>
    rw [List.mapM_cons]
    cases hx : fault? x with
    | some e =>
      -- the first member is the first with a fault
      rw [stops x e hx]
      exact Or.inr ⟨e, rfl, [], x, xs, rfl, faultless_nil _, hx⟩
    | none =>
      -- the first member is answered for, so that the rest decides
      obtain ⟨y, hy, hxy⟩ := goesOn x hx
      rw [hy]
      change ((xs.mapM f >>= fun ys => pure (y :: ys)) = _ ∧ _) ∨
        ∃ e, (xs.mapM f >>= fun ys => pure (y :: ys)) = _ ∧ _
      rcases ih with ⟨hys, hnone⟩ | ⟨e, he, before, z, after, hxs, hb, hz⟩
      · rw [hys, List.filterMap_cons, hxy]
        exact Or.inl ⟨rfl, List.forall_mem_cons.mpr ⟨hx, hnone⟩⟩
      · rw [he]
        refine Or.inr ⟨e, rfl, x :: before, z, after, by rw [hxs]; rfl, ?_, hz⟩
        rw [faultless_iff_forall] at hb ⊢
        exact List.forall_mem_cons.mpr ⟨hx, hb⟩

end Lexicon
