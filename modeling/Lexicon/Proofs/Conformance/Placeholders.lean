import Lexicon.Conformance.Manifest
import Lexicon.Proofs.Text.Occurrences

/-! What expanding a text makes of it. A text is cut at its placeholders once, and what is put in
for them is not looked at again. Two replacements one after the other do the same unless the source
root, together with what stands around it, spells a placeholder for the executable. -/
namespace Lexicon.Conformance

open Text (occurrences replaceChars fill)

inductive Placeholder
  | source
  | executable
deriving DecidableEq

namespace Placeholder

def name : Placeholder → List Char
  | source => ['s', 'r', 'c', '\x7d']
  | executable => ['e', 'x', 'e', '\x7d']

def spelling (x : Placeholder) : List Char := '\x7b' :: x.name

theorem brace_not_mem_name (x : Placeholder) : '\x7b' ∉ x.name := by cases x <;> decide

theorem spelling_ne_nil (x : Placeholder) : x.spelling ≠ [] := List.cons_ne_nil _ _

theorem not_spelling_prefix_append {x y : Placeholder} (h : y ≠ x) (rest : List Char) :
    ¬x.spelling <+: y.spelling ++ rest := by
  cases x <;> cases y
  · exact absurd rfl h
  · simp [spelling, name]
  · simp [spelling, name]
  · exact absurd rfl h

theorem occurrences_spelling_append (x y : Placeholder) (rest : List Char) :
    occurrences x.spelling (y.spelling ++ rest) =
      occurrences x.spelling rest + if y = x then 1 else 0 := by
  by_cases h : y = x
  · rw [if_pos h, h]
    exact Text.occurrences_append_self x.brace_not_mem_name rest
  · rw [if_neg h]
    calc occurrences x.spelling (y.spelling ++ rest)
      _ = occurrences x.spelling (y.name ++ rest) :=
        Text.occurrences_cons_of_absent (not_spelling_prefix_append h rest)
      _ = occurrences x.spelling rest :=
        Text.occurrences_append_of_not_mem y.brace_not_mem_name rest

theorem replaceChars_spelling_append {x y : Placeholder} (h : y ≠ x) (by' rest : List Char) :
    replaceChars x.spelling by' (y.spelling ++ rest) =
      y.spelling ++ replaceChars x.spelling by' rest := by
  calc replaceChars x.spelling by' (y.spelling ++ rest)
    _ = '\x7b' :: replaceChars x.spelling by' (y.name ++ rest) :=
      Text.replaceChars_cons_of_absent (not_spelling_prefix_append h rest)
    _ = y.spelling ++ replaceChars x.spelling by' rest :=
      congrArg _ (Text.replaceChars_append_of_not_mem y.brace_not_mem_name by' rest)

end Placeholder

inductive Piece
  | char (c : Char)
  | placeholder (x : Placeholder)
deriving DecidableEq

def cut : List Char → List Piece
  | '\x7b' :: 's' :: 'r' :: 'c' :: '\x7d' :: rest => .placeholder .source :: cut rest
  | '\x7b' :: 'e' :: 'x' :: 'e' :: '\x7d' :: rest => .placeholder .executable :: cut rest
  | c :: rest => .char c :: cut rest
  | [] => []

def Piece.spelling : Piece → List Char
  | char c => [c]
  | placeholder x => x.spelling

namespace Placeholders

def path (p : Placeholders) : Placeholder → String
  | .source => p.source
  | .executable => p.executable

def filling (p : Placeholders) : Piece → List Char
  | .char c => [c]
  | .placeholder x => (p.path x).toList

/-- Fills in both placeholders at once. -/
def substitute (p : Placeholders) (s : String) : String :=
  String.ofList ((cut s.toList).flatMap p.filling)

/-- A part where the source root is filled in, and the executable is not. -/
def halfFilled (p : Placeholders) : Piece → List (Option Char)
  | .char c => [some c]
  | .placeholder .source => p.source.toList.map some
  | .placeholder .executable => [none]

end Placeholders

/-! ### Cutting -/

theorem cut_spelling_append (x : Placeholder) (rest : List Char) :
    cut (x.spelling ++ rest) = .placeholder x :: cut rest := by
  cases x <;> rfl

/-- A text is cut from left to right, behind a placeholder or behind one character. -/
@[elab_as_elim]
theorem cut_induction {motive : List Char → Prop} (nil : motive [])
    (placeholder : ∀ x rest, motive rest → motive (Placeholder.spelling x ++ rest))
    (char : ∀ c rest, (∀ x, ¬Placeholder.spelling x <+: c :: rest) →
      cut (c :: rest) = .char c :: cut rest → motive rest → motive (c :: rest))
    (cs : List Char) : motive cs := by
  induction cs using cut.induct with
  | case1 rest ih => exact placeholder .source rest ih
  | case2 rest ih => exact placeholder .executable rest ih
  | case3 c rest hsource hexecutable ih =>
    refine char c rest ?_ (cut.eq_3 c rest hsource hexecutable) ih
    rintro x ⟨more, hmore⟩
    obtain ⟨rfl, rfl⟩ := List.cons.inj hmore
    cases x with
    | source => exact hsource more rfl rfl
    | executable => exact hexecutable more rfl rfl
  | case4 => exact nil

theorem flatMap_spelling_cut (cs : List Char) : (cut cs).flatMap Piece.spelling = cs := by
  induction cs using cut_induction with
  | nil => rfl
  | placeholder x rest ih => rw [cut_spelling_append, List.flatMap_cons, ih, Piece.spelling]
  | char c rest _ hcut ih => rw [hcut, List.flatMap_cons, ih, Piece.spelling, List.singleton_append]

theorem count_placeholder_cut (x : Placeholder) (cs : List Char) :
    (cut cs).count (.placeholder x) = occurrences x.spelling cs := by
  induction cs using cut_induction with
  | nil => cases x <;> rfl
  | placeholder y rest ih =>
    rw [cut_spelling_append, List.count_cons, ih, Placeholder.occurrences_spelling_append]
    simp only [beq_iff_eq, Piece.placeholder.injEq]
  | char c rest hnot hcut ih =>
    rw [hcut, List.count_cons_of_ne (by simp), ih, Text.occurrences_cons_of_absent (hnot x)]

/-! ### The source root first -/

namespace Placeholders

variable (p : Placeholders)

theorem fill_halfFilled (pieces : List Piece) :
    fill p.executable.toList (pieces.flatMap p.halfFilled) = pieces.flatMap p.filling := by
  induction pieces with
  | nil => rfl
  | cons piece pieces ih =>
    rw [List.flatMap_cons, List.flatMap_cons, ← ih]
    match piece with
    | .char c => rfl
    | .placeholder .source => exact Text.fill_map_some_append _ _ _
    | .placeholder .executable => rfl

/-- The gaps are the placeholders of the executable. -/
theorem count_none_halfFilled (pieces : List Piece) :
    (pieces.flatMap p.halfFilled).count none = pieces.count (.placeholder .executable) := by
  induction pieces with
  | nil => rfl
  | cons piece pieces ih =>
    rw [List.flatMap_cons, List.count_append, ih]
    match piece with
    | .char c =>
      rw [List.count_cons_of_ne (by simp), halfFilled, List.count_eq_zero.mpr (by simp),
        Nat.zero_add]
    | .placeholder .source =>
      rw [List.count_cons_of_ne (by simp), halfFilled, List.count_eq_zero.mpr (by simp),
        Nat.zero_add]
    | .placeholder .executable =>
      rw [List.count_cons_self, halfFilled, List.count_cons_self, List.count_nil]
      exact Nat.add_comm _ _

/-- Filling in the source root leaves the other placeholders as gaps. -/
theorem replaceChars_source (cs : List Char) :
    replaceChars Placeholder.source.spelling p.source.toList cs =
      fill Placeholder.executable.spelling ((cut cs).flatMap p.halfFilled) := by
  induction cs using cut_induction with
  | nil => rw [replaceChars]; rfl
  | placeholder x rest ih =>
    rw [cut_spelling_append, List.flatMap_cons]
    cases x with
    | source =>
      rw [Text.replaceChars_append_self (Placeholder.spelling_ne_nil _), ih]
      exact (Text.fill_map_some_append _ _ _).symm
    | executable =>
      rw [Placeholder.replaceChars_spelling_append (by decide), ih]
      rfl
  | char c rest hnot hcut ih =>
    rw [Text.replaceChars_cons_of_absent (hnot .source), ih, hcut]
    rfl

theorem toList_expand (s : String) : (p.expand s).toList =
    replaceChars Placeholder.executable.spelling p.executable.toList
      (Text.replace "\x7bsrc\x7d" p.source s).toList := by
  rw [expand, Text.replace, String.toList_ofList]
  rfl

theorem toList_replace_source (s : String) : (Text.replace "\x7bsrc\x7d" p.source s).toList =
    fill Placeholder.executable.spelling ((cut s.toList).flatMap p.halfFilled) := by
  rw [Text.replace, String.toList_ofList]
  exact p.replaceChars_source s.toList

/-- Both at once and one after the other, told apart by the placeholders that come about. -/
theorem expand_eq_iff (s : String) : p.expand s = p.substitute s ↔
    p.executable = "\x7bexe\x7d" ∨
      occurrences Placeholder.executable.spelling (Text.replace "\x7bsrc\x7d" p.source s).toList =
        occurrences Placeholder.executable.spelling s.toList := by
  have hexecutable : p.executable.toList = Placeholder.executable.spelling ↔
      p.executable = "\x7bexe\x7d" := by
    rw [← String.toList_inj]
    rfl
  rw [← String.toList_inj, toList_expand, toList_replace_source, substitute, String.toList_ofList,
    ← fill_halfFilled, ← count_placeholder_cut .executable s.toList, ← p.count_none_halfFilled,
    ← hexecutable]
  exact Text.replaceChars_fill_iff Placeholder.executable.brace_not_mem_name _ _

/-- Without braces of its own, the source root comes to stand in a new placeholder only if it is a
part of the name. -/
theorem occurrences_replaceChars_source
    (hbraces : ∀ c ∈ p.source.toList, c ≠ '\x7b' ∧ c ≠ '\x7d')
    (hin : ¬p.source.toList <:+: ['e', 'x', 'e']) (cs : List Char) :
    occurrences Placeholder.executable.spelling
        (replaceChars Placeholder.source.spelling p.source.toList cs) =
      occurrences Placeholder.executable.spelling cs := by
  have hopening : '\x7b' ∉ p.source.toList := fun hmem => (hbraces _ hmem).1 rfl
  have hclosing : '\x7d' ∉ p.source.toList := fun hmem => (hbraces _ hmem).2 rfl
  induction cs using cut_induction with
  | nil => rw [replaceChars]
  | placeholder x rest ih =>
    cases x with
    | source =>
      rw [Text.replaceChars_append_self (Placeholder.spelling_ne_nil _),
        Placeholder.occurrences_spelling_append, if_neg (by decide), Nat.add_zero, ← ih]
      exact Text.occurrences_append_of_not_mem hopening _
    | executable =>
      rw [Placeholder.replaceChars_spelling_append (by decide),
        Placeholder.occurrences_spelling_append, Placeholder.occurrences_spelling_append, ih]
  | char c rest hnot _ ih =>
    -- what would come about here ends behind all that was put in, so it was there before
    have hfilled : ¬Placeholder.executable.spelling <+:
        c :: replaceChars Placeholder.source.spelling p.source.toList rest := by
      intro hstart
      obtain ⟨rfl, hname⟩ := List.cons_prefix_cons.mp hstart
      have hrest : ['e', 'x', 'e'] ++ ['\x7d'] <+: rest :=
        Text.prefix_of_prefix_replaceChars (Placeholder.spelling_ne_nil _) hclosing hin hname
      exact hnot .executable (List.cons_prefix_cons.mpr ⟨rfl, hrest⟩)
    rw [Text.replaceChars_cons_of_absent (hnot .source),
      Text.occurrences_cons_of_absent hfilled, ih,
      Text.occurrences_cons_of_absent (hnot .executable)]

/-- A text is cut at all of its placeholders. Expanding it fills in both of them at once exactly if
no placeholder for the executable comes about where the source root is put in, or if the path of the
executable is spelt like its placeholder. A source root without braces makes none come about, unless
it is a part of the placeholder's name, as the empty one is. -/
theorem expand_eq_substitute_iff (s : String) :
    ((cut s.toList).flatMap Piece.spelling = s.toList ∧
      ∀ x, (cut s.toList).count (.placeholder x) = occurrences x.spelling s.toList) ∧
    (p.expand s = p.substitute s ↔ p.executable = "\x7bexe\x7d" ∨
      occurrences Placeholder.executable.spelling (Text.replace "\x7bsrc\x7d" p.source s).toList =
        occurrences Placeholder.executable.spelling s.toList) ∧
    ((∀ c ∈ p.source.toList, c ≠ '\x7b' ∧ c ≠ '\x7d') → ¬p.source.toList <:+: ['e', 'x', 'e'] →
      p.expand s = p.substitute s) := by
  refine ⟨⟨flatMap_spelling_cut _, fun x => count_placeholder_cut x _⟩, p.expand_eq_iff s, ?_⟩
  intro hbraces hin
  rw [expand_eq_iff, Text.replace, String.toList_ofList]
  exact .inr (p.occurrences_replaceChars_source hbraces hin s.toList)

/-- A source root like most of them, and both placeholders. -/
theorem mixed_expand_eq_substitute :
    (∀ c ∈ "e2e/src".toList, c ≠ '\x7b' ∧ c ≠ '\x7d') ∧
    ¬"e2e/src".toList <:+: ['e', 'x', 'e'] ∧
    expand ⟨"e2e/src", "adept"⟩ "\x7bsrc\x7d:\x7bexe\x7d" = "e2e/src:adept" ∧
    substitute ⟨"e2e/src", "adept"⟩ "\x7bsrc\x7d:\x7bexe\x7d" = "e2e/src:adept" := by
  have hbraces : ∀ c ∈ "e2e/src".toList, c ≠ '\x7b' ∧ c ≠ '\x7d' := by simp
  have hin : ¬"e2e/src".toList <:+: ['e', 'x', 'e'] := by decide
  have hsubstitute :
      substitute ⟨"e2e/src", "adept"⟩ "\x7bsrc\x7d:\x7bexe\x7d" = "e2e/src:adept" := by decide
  have hexpand := (expand_eq_substitute_iff ⟨"e2e/src", "adept"⟩ "\x7bsrc\x7d:\x7bexe\x7d").2.2
    hbraces hin
  exact ⟨hbraces, hin, hexpand.trans hsubstitute, hsubstitute⟩

/-- A source root that is spelt like the other placeholder is taken for one, and so is what stands
around an empty one. -/
theorem expand_ne_substitute :
    expand ⟨"\x7bexe\x7d", "adept"⟩ "\x7bsrc\x7d" = "adept" ∧
    substitute ⟨"\x7bexe\x7d", "adept"⟩ "\x7bsrc\x7d" = "\x7bexe\x7d" ∧
    expand ⟨"", "adept"⟩ "\x7be\x7bsrc\x7dxe\x7d" = "adept" ∧
    substitute ⟨"", "adept"⟩ "\x7be\x7bsrc\x7dxe\x7d" = "\x7bexe\x7d" := by
  exact ⟨by cbv, by cbv, by cbv, by cbv⟩

end Placeholders

end Lexicon.Conformance
