import Lexicon.Proofs.Table.Audit

/-! A compiled table that was edited by hand may have its keyword boundary anywhere, and then a
difference or a part of its entries need not exist. The audit takes both only behind the checks that
allow it, so that it always comes to a verdict. -/
namespace Lexicon

namespace Audit

/-- A verdict is reached: nothing is found, or a violation. -/
def Concludes (v : Verdict) : Prop := v ≠ .error .halted

theorem concludes_ok : Concludes (.ok ()) := nofun

theorem concludes_require (holds : Bool) (v : Violation) : Concludes (require holds v) := by
  cases holds with
  | true => exact nofun
  | false => exact nofun

theorem concludes_refuse (entries : List Entry) (isWrong : Entry → Bool) (v : Entry → Violation) :
    Concludes (refuse entries isWrong v) := by
  unfold refuse
  split
  · exact nofun
  · exact nofun

/-- A check that fails ends the audit, so that whatever follows may rely on it. -/
theorem Concludes.bind {x : Verdict} {rest : Unit → Verdict} (hx : Concludes x)
    (hrest : x = .ok () → Concludes (rest ())) : Concludes (x >>= rest) := by
  cases x with
  | ok u => exact hrest rfl
  | error s =>
    intro h
    exact hx h

theorem Concludes.orHalt_bind {α : Type} {o : Option α} {a : α} {rest : α → Verdict} (ho : o = some a)
    (hrest : Concludes (rest a)) : Concludes (orHalt o >>= rest) := by
  rw [ho]
  exact hrest

theorem concludes_forM {α : Type} {check : α → Verdict} (h : ∀ a, Concludes (check a))
    (xs : List α) : Concludes (xs.forM check) := by
  induction xs with
  | nil => exact concludes_ok
  | cons x xs ih => exact (h x).bind fun _ => ih

theorem concludes_checkEntry (e : Entry) (i : Nat) : Concludes (checkEntry e i) :=
  (concludes_require _ _).bind fun _ => concludes_require _ _

theorem concludes_checkAscending (entries : List Entry) : Concludes (checkAscending entries) := by
  fun_induction checkAscending entries with
  | case1 a b rest ih => exact (concludes_require _ _).bind fun _ => ih
  | case2 => exact concludes_ok

theorem concludes_checkDistinct (seen : Std.HashSet String) (entries : List Entry) :
    Concludes (checkDistinct seen entries) := by
  fun_induction checkDistinct seen entries with
  | case1 => exact concludes_ok
  | case2 => exact nofun
  | case3 seen e rest _ ih => exact ih

theorem concludes_checkAlias (entries : List Entry) (a : AliasEntry) :
    Concludes (checkAlias entries a) := by
  unfold checkAlias
  split
  · exact nofun
  · exact concludes_require _ _

end Audit

namespace Compiled

open Audit Bounded in
/-- An audit never halts, however the compiled table was edited. -/
theorem audit_concludes (t : Table) (c : Compiled) : Concludes (c.audit t) := by
  unfold audit
  refine (concludes_require _ _).bind fun _ => ?_
  refine (concludes_forM (fun _ => concludes_checkEntry _ _) _).bind fun _ => ?_
  refine (concludes_require _ _).bind fun hboundary => ?_
  -- whoever gets past the third check has the boundary inside the table
  have hinside : c.BoundaryInside := of_decide_eq_true (require_eq_ok_iff.mp hboundary)
  have hfront := front?_of_le hinside
  have hkeywords := keywords?_of_boundaryInside hinside
  refine .orHalt_bind (minus?_of_le hinside) ((concludes_require _ _).bind fun _ => ?_)
  refine .orHalt_bind hfront ((concludes_refuse _ _ _).bind fun _ => ?_)
  refine .orHalt_bind hkeywords ((concludes_refuse _ _ _).bind fun _ => ?_)
  refine .orHalt_bind hkeywords ((concludes_checkAscending _).bind fun _ => ?_)
  refine .orHalt_bind hfront ((concludes_require _ _).bind fun _ => ?_)
  refine (concludes_checkDistinct _ _).bind fun _ => ?_
  refine (concludes_require _ _).bind fun _ => ?_
  exact concludes_forM (concludes_checkAlias c.entries) _

/-- A boundary past the end is reported, if nothing else is. -/
theorem exists_audit_eq_error {c : Compiled} (h : c.size < c.firstKeyword.position) (t : Table) :
    ∃ v, c.audit t = .error (.failed v) := by
  have hconcludes := audit_concludes t c
  match hverdict : c.audit t with
  | .error (.failed v) => exact ⟨v, rfl⟩
  | .error .halted => exact absurd hverdict hconcludes
  | .ok () =>
    have hinside := ((audit_eq_ok_iff t c).mp hverdict).boundaryInside
    exact absurd h (Nat.not_lt.mpr hinside)

end Compiled

end Lexicon
