import Mathlib.Data.List.Forall2
import Lexicon.Conformance.Report
import Lexicon.Proofs.Conformance.EscapePattern
import Lexicon.Proofs.Conformance.EscapeResidue
import Lexicon.Proofs.Conformance.Run
import Lexicon.Proofs.Text.Lines

namespace Lexicon.Conformance

open Text (Bytes)

namespace Palette

/-- A line as it is, or with what belongs to a failure or to a success around it. -/
inductive Decorates (p : Palette) : String → String → Prop
  | bare (line : String) : Decorates p line line
  | failure (line : String) : Decorates p line (p.failure ++ line ++ p.normal)
  | success (line : String) : Decorates p line (p.success ++ line ++ p.normal)

/-- All that is added are escape sequences. -/
structure Codes (p : Palette) : Prop where
  failure : Escape.IsSequence (Text.utf8 p.failure)
  success : Escape.IsSequence (Text.utf8 p.success)
  normal : Escape.IsSequence (Text.utf8 p.normal)

theorem codes_color : color.Codes := by
  -- each is a control sequence of digits with the final byte `m`
  have hcode (digits : Bytes) (h : digits.all Escape.isParameter = true) :
      Escape.IsSequence ([Escape.escape, 0x5B] ++ digits ++ [] ++ [0x6D]) :=
    .control (by decide) (List.all_eq_true.mp h) nofun (by decide)
  constructor
  case failure => exact hcode [0x33, 0x31] (by decide)
  case success => exact hcode [0x33, 0x32] (by decide)
  case normal => exact hcode [0x30] (by decide)

theorem plain_around (line : String) : plain.failure ++ line ++ plain.normal = line := by
  rw [plain, String.empty_append, String.append_empty]

variable (p : Palette) (line : String)

theorem Decorates.of_failure :
    p.Decorates (plain.failure ++ line ++ plain.normal) (p.failure ++ line ++ p.normal) := by
  rw [plain_around]
  exact .failure line

theorem Decorates.of_success :
    p.Decorates (plain.success ++ line ++ plain.normal) (p.success ++ line ++ p.normal) := by
  have hplain : plain.success ++ line ++ plain.normal = line := plain_around line
  rw [hplain]
  exact .success line

end Palette

open Palette (Decorates)

/-! ### What colour adds -/

/-- A line of a case is decorated as a whole, if at all. -/
theorem CaseReport.lines_decorated (p : Palette) (c : CaseReport) :
    List.Forall₂ p.Decorates (c.lines .plain) (c.lines p) := by
  obtain ⟨name, outcome⟩ := c
  have hfailed (what : String) : p.Decorates
      (Palette.plain.failure ++ "TEST `" ++ name ++ "` FAILED: " ++ what ++ Palette.plain.normal)
      (p.failure ++ "TEST `" ++ name ++ "` FAILED: " ++ what ++ p.normal) := by
    have h := Decorates.of_failure p ("TEST `" ++ name ++ "` FAILED: " ++ what)
    simp only [String.append_assoc] at h ⊢
    exact h
  cases outcome with
  | passed => exact .cons (.bare _) .nil
  | skipped => exact .cons (.bare _) .nil
  | failed failure =>
    cases failure with
    | spawn command error => exact .cons (.bare _) (.cons (hfailed _) .nil)
    | run command output predicateFailed exit =>
      -- the four parts of the block of a program that ran
      refine List.rel_append (List.rel_append (List.rel_append ?running ?predicate) ?exit) ?actual
      case running => exact .cons (.bare _) .nil
      case predicate =>
        cases predicateFailed with
        | false => exact .nil
        | true => exact .cons (hfailed _) .nil
      case exit =>
        cases exit with
        | none => exact .nil
        | some m => exact .cons (hfailed _) .nil
      case actual => exact .cons (.of_failure p "Actual...") (.cons (.bare _) .nil)

namespace Report

variable {r : Report} {p : Palette}

theorem summary_decorated {last shown : String} (hlast : r.summary? .plain = some last)
    (hshown : r.summary? p = some shown) : p.Decorates last shown := by
  rw [summary?_eq, Option.some.injEq] at hlast hshown
  rw [← hlast, ← hshown]
  -- with and without colour, the same counts decide which of the two lines is shown
  split
  · have h := Decorates.of_success p ("All tests passed (" ++ toString r.passed ++ " run, " ++
      toString r.skipped ++ " skipped)...")
    simp only [successLine, String.append_assoc] at h ⊢
    exact h
  · have h := Decorates.of_failure p (toString r.failed ++ " of " ++
      toString (r.cases.length - r.skipped) ++ " tests failed, exiting with status of 1...")
    simp only [failureLine, String.append_assoc] at h ⊢
    exact h

theorem lines_decorated {plain shown : List String} (hplain : r.lines? .plain = some plain)
    (hshown : r.lines? p = some shown) : List.Forall₂ p.Decorates plain shown := by
  obtain ⟨last, hlast, hlines⟩ := r.lines?_eq .plain
  obtain ⟨last', hlast', hlines'⟩ := r.lines?_eq p
  obtain rfl := Option.some.inj (hlines.symm.trans hplain)
  obtain rfl := Option.some.inj (hlines'.symm.trans hshown)
  have hcases : List.Forall₂ p.Decorates (r.cases.flatMap (·.lines .plain))
      (r.cases.flatMap (·.lines p)) := by
    rw [List.flatMap_def, List.flatMap_def]
    apply List.rel_flatten
    rw [List.forall₂_map_left_iff, List.forall₂_map_right_iff, List.forall₂_same]
    intro c _
    exact c.lines_decorated p
  exact List.rel_append hcases (.cons (summary_decorated hlast hlast') .nil)

theorem utf8_join_lines (lines : List String) : Text.utf8 (String.join (lines.map (· ++ "\n"))) =
    Text.terminated 10 (lines.map Text.utf8) := by
  have hbreak (line : String) : Text.utf8 (line ++ "\n") = Text.utf8 line ++ [10] :=
    Text.utf8_append line "\n"
  rw [Text.utf8_join, List.flatMap_map, Text.terminated, List.flatMap_map]
  simp only [hbreak]

/-- Each line that is shown ends in a line break. -/
theorem exists_render_lines (r : Report) (color : Bool) : ∃ lines text,
    r.lines? (if color then .color else .plain) = some lines ∧ r.render? color = some text ∧
    Text.utf8 text = Text.terminated 10 (lines.map Text.utf8) := by
  obtain ⟨last, -, hlines⟩ := r.lines?_eq (if color then .color else .plain)
  have hrender := congrArg (Option.map fun lines => String.join (lines.map (· ++ "\n"))) hlines
  exact ⟨_, _, hlines, hrender, utf8_join_lines _⟩

end Report

/-! ### What is left when sequences are removed -/

/-- Codes at both ends go, and what the line itself has begun ends where a code begins. -/
theorem Palette.Codes.strip_decorated {p : Palette} (hp : p.Codes) {line shown : String}
    (h : p.Decorates line shown) :
    Escape.strip (Text.utf8 shown) = Escape.strip (Text.utf8 line) := by
  have haround {start stop : String} (hstart : Escape.IsSequence (Text.utf8 start))
      (hstop : Escape.IsSequence (Text.utf8 stop)) :
      Escape.strip (Text.utf8 (start ++ line ++ stop)) = Escape.strip (Text.utf8 line) := by
    -- what the line has begun ends where the code behind it begins
    have hstrip := Escape.strip_append_sequence hstop (Text.utf8 line) []
    rw [List.append_nil, Escape.strip, List.append_nil] at hstrip
    rw [Text.utf8_append, Text.utf8_append, List.append_assoc, Escape.strip_append hstart, hstrip]
  cases h with
  | bare => rfl
  | failure => exact haround hp.failure hp.normal
  | success => exact haround hp.success hp.normal

theorem Palette.Codes.strip_lines {p : Palette} (hp : p.Codes) {lines shown : List String}
    (h : List.Forall₂ p.Decorates lines shown) :
    shown.map (fun line => Escape.strip (Text.utf8 line)) =
      lines.map fun line => Escape.strip (Text.utf8 line) := by
  induction h with
  | nil => rfl
  | cons hfirst _ ih => rw [List.map_cons, List.map_cons, hp.strip_decorated hfirst, ih]

/-- No sequence reaches across a line break. -/
theorem Escape.strip_terminated (parts : List Bytes) :
    strip (Text.terminated 10 parts) = Text.terminated 10 (parts.map strip) := by
  -- a line break neither begins a sequence nor stands further back in one
  have hidle : IsIdle 10 := isIdle_of_ascii (by decide) (by decide)
  induction parts with
  | nil => rw [Text.terminated, List.flatMap_nil, strip, List.map_nil, Text.terminated,
      List.flatMap_nil]
  | cons part parts ih =>
    have hhead : ∀ c ∈ (10 :: Text.terminated 10 parts).head?, ¬IsInner c := by
      rintro c ⟨⟩
      decide
    rw [Text.terminated_cons, strip_append_of_head hhead, strip_cons_of_isIdle hidle, ih,
      List.map_cons, Text.terminated_cons]

theorem Escape.strip_of_lines {text : String} {lines : List String}
    (h : Text.utf8 text = Text.terminated 10 (lines.map Text.utf8)) : strip (Text.utf8 text) =
      Text.terminated 10 (lines.map fun line => strip (Text.utf8 line)) := by
  rw [h, strip_terminated, List.map_map]
  rfl

/-- Every report can be shown with colour and without. Colour puts escape sequences around lines and
does nothing else, so that nothing of it is left when the matches of the pattern are removed. -/
theorem Report.color_only_decorates (r : Report) : ∃ plain colored shown decorated,
    r.lines? .plain = some plain ∧ r.lines? .color = some colored ∧
    r.render? false = some shown ∧ r.render? true = some decorated ∧
    List.Forall₂ Palette.color.Decorates plain colored ∧
    Text.utf8 shown = Text.terminated 10 (plain.map Text.utf8) ∧
    Text.utf8 decorated = Text.terminated 10 (colored.map Text.utf8) ∧
    (∀ text, text = shown ∨ text = decorated → Escape.strip (Text.utf8 text) =
      Text.terminated 10 (plain.map fun line => Escape.strip (Text.utf8 line))) ∧
    ∃ pattern, Pattern.ofText Escape.patternText = .ok pattern ∧
      Pattern.removeFrom pattern.expression (Text.utf8 decorated).toArray 0 =
        Pattern.removeFrom pattern.expression (Text.utf8 shown).toArray 0 := by
  obtain ⟨plain, shown, hplain, hshown, hbytes⟩ := r.exists_render_lines false
  obtain ⟨colored, decorated, hcolored, hdecorated, hbytes'⟩ := r.exists_render_lines true
  have hforall : List.Forall₂ Palette.color.Decorates plain colored :=
    lines_decorated hplain hcolored
  have hstrip := Escape.strip_of_lines hbytes
  -- what colour has put around the lines is removed with the sequences that were there before
  have hstrip' : Escape.strip (Text.utf8 decorated) =
      Text.terminated 10 (plain.map fun line => Escape.strip (Text.utf8 line)) := by
    rw [Escape.strip_of_lines hbytes', Palette.codes_color.strip_lines hforall]
  refine ⟨plain, colored, shown, decorated, hplain, hcolored, hshown, hdecorated, hforall, hbytes,
    hbytes', ?_, _, Escape.ofText_patternText, ?_⟩
  · rintro text (rfl | rfl)
    · exact hstrip
    · exact hstrip'
  · have hremoved (bytes : Bytes) :
        Pattern.removeFrom Escape.patternExpression bytes.toArray 0 = Escape.strip bytes :=
      Escape.removeFrom_patternExpression bytes 0
    calc Pattern.removeFrom Escape.patternExpression (Text.utf8 decorated).toArray 0
      _ = Escape.strip (Text.utf8 decorated) := hremoved _
      _ = Escape.strip (Text.utf8 shown) := hstrip'.trans hstrip.symm
      _ = Pattern.removeFrom Escape.patternExpression (Text.utf8 shown).toArray 0 :=
        (hremoved _).symm

end Lexicon.Conformance
