import Mathlib.Tactic.SplitIfs
import Lexicon.Json.Token

namespace Lexicon.Json

/-- Values without brackets. -/
def Value.Bare : Value → Prop
  | .array _ | .object _ => False
  | _ => True

/-- A scan that ends well finds a value without brackets. -/
def FindsBare (scan : Except Slip (Value × Nat)) : Prop := ∀ v ∈ scan.toOption, v.1.Bare

theorem findsBare_ok {v : Value} (h : v.Bare) (taken : Nat) : FindsBare (.ok (v, taken)) := by
  intro v' hv'
  cases hv'
  exact h

theorem findsBare_error (slip : Slip) : FindsBare (.error slip) := nofun

theorem FindsBare.ite {c : Prop} [Decidable c] {scan scan' : Except Slip (Value × Nat)}
    (h : FindsBare scan) (h' : FindsBare scan') : FindsBare (if c then scan else scan') := by
  split_ifs
  · exact h
  · exact h'

namespace Number

theorem findsBare_real (negative : Bool) (taken : Nat) (x : Option Float) :
    FindsBare (real negative taken x) := by
  cases x with
  | none => exact findsBare_error _
  | some x => exact findsBare_ok (v := .real _) trivial _

theorem findsBare_scanExponent (negative : Bool) (s : Significand) (taken : Nat) (cs : List Char) :
    FindsBare (scanExponent negative s taken cs) := by
  refine .ite (findsBare_error _) ?_
  split
  · exact .ite (findsBare_error _) (findsBare_ok (v := .real _) trivial _)
  · exact findsBare_real _ _ _

theorem findsBare_scanRest (negative : Bool) (s : Significand) (taken : Nat) (cs : List Char) :
    FindsBare (scanRest negative s taken cs) := by
  unfold scanRest
  split
  · refine .ite (findsBare_error _) ?_
    dsimp only
    split
    · exact findsBare_scanExponent _ _ _ _
    · exact findsBare_scanExponent _ _ _ _
    · exact findsBare_real _ _ _
  · exact findsBare_scanExponent _ _ _ _
  · exact findsBare_scanExponent _ _ _ _
  · refine .ite (findsBare_real _ _ _) (.ite (findsBare_ok (v := .integer _) trivial _) ?_)
    exact .ite (findsBare_ok (v := .integer _) trivial _) (findsBare_ok (v := .real _) trivial _)

theorem findsBare_scanUnsigned (negative : Bool) (taken : Nat) (cs : List Char) :
    FindsBare (scanUnsigned negative taken cs) := by
  cases cs with
  | nil => exact findsBare_error _
  | cons c rest =>
    refine .ite (.ite (findsBare_error _) ?_) (.ite ?_ (findsBare_error _))
    · exact findsBare_scanRest _ _ _ _
    · exact findsBare_scanRest _ _ _ _

theorem findsBare_scan (c : Char) (rest : List Char) : FindsBare (scan c rest) :=
  .ite (findsBare_scanUnsigned _ _ _) (findsBare_scanUnsigned _ _ _)

end Number

def Lexeme.Plain (l : Lexeme) : Prop := ∀ v, l = .leaf v → v.Bare

namespace Lexeme

theorem plain_ofScan (m : Mark) (cs : List Char) (shape : Shape) {scan : Except Slip (Value × Nat)}
    (h : FindsBare scan) : (ofScan m cs shape scan).1.Plain := by
  intro v hv
  cases scan with
  | error slip => cases hv
  | ok found =>
    cases hv
    exact h found rfl

theorem findsBare_map {α : Type} {value : α → Value} (hvalue : ∀ a, (value a).Bare)
    (taken : α → Nat) (scan : Except Slip α) :
    FindsBare (scan.map fun a => (value a, taken a)) := by
  cases scan with
  | error slip => exact findsBare_error slip
  | ok a => exact findsBare_ok (hvalue a) (taken a)

theorem plain_ite {c : Prop} [Decidable c] {found found' : Lexeme × Nat} (h : found.1.Plain)
    (h' : found'.1.Plain) : (if c then found else found').1.Plain := by
  split_ifs
  · exact h
  · exact h'

theorem plain_scan (m : Mark) (c : Char) (rest : List Char) : (scan m c rest).1.Plain := by
  have hword (shape : Shape) {v : Value} (hv : v.Bare) (tail : String) :
      (ofScan m (c :: rest) shape
        ((scanWord 1 tail.toList rest).map fun taken => (v, taken))).1.Plain :=
    plain_ofScan _ _ _ (findsBare_map (fun _ => hv) _ _)
  refine plain_ite nofun (plain_ite nofun (plain_ite nofun (plain_ite nofun ?_)))
  refine plain_ite nofun (plain_ite nofun (plain_ite ?_ (plain_ite ?_ ?_)))
  · have htext : ∀ read : List Char × Nat, (Value.text (String.ofList read.1)).Bare :=
      fun _ => trivial
    exact plain_ofScan _ _ _ (findsBare_map htext (fun read => read.2 + 1) _)
  · exact plain_ofScan _ _ _ (Number.findsBare_scan c rest)
  · refine plain_ite (hword .null (v := .null) trivial "ull") ?_
    refine plain_ite (hword .boolean (v := .boolean true) trivial "rue") ?_
    exact plain_ite (hword .boolean (v := .boolean false) trivial "alse") nofun

end Lexeme

/-- What a text is cut into holds no value with brackets. -/
theorem plain_tokensFrom (m : Mark) (cs : List Char) : ∀ t ∈ tokensFrom m cs, t.lexeme.Plain := by
  induction m, cs using tokensFrom.induct with
  | case1 m =>
    rw [tokensFrom]
    exact List.forall_mem_nil _
  | case2 m c rest hblank ih =>
    rw [tokensFrom, if_pos hblank]
    exact ih
  | case3 m c rest hblank more shape fault hscan =>
    rw [tokensFrom, if_neg hblank, hscan]
    exact List.forall_mem_singleton.mpr nofun
  | case4 m c rest hblank lexeme more hscan stop hwhole ih =>
    have hlexeme : lexeme.Plain := by
      have hplain := Lexeme.plain_scan m c rest
      rwa [hscan] at hplain
    rw [tokensFrom, if_neg hblank, hscan]
    dsimp only
    split
    · exact absurd rfl (hwhole _ _)
    · exact List.forall_mem_cons.mpr ⟨hlexeme, ih⟩

end Lexicon.Json
