import Mathlib
import Lexicon.Proofs.Artifact.Agreement

namespace Lexicon

namespace Artifact.Header

open Text (Line)

def openingLines : List Line :=
  [[], bannerLine, [], ("#ifndef " ++ guard).toList, ("#define " ++ guard).toList, []]

/-- The place of the line of the stamp among the lines of a header. -/
def stampRow : Nat := 6

/-- A line that defines the constant of the stamp by at least eight capital digits, which spell the
whole stamp. -/
def ShowsStamp (stamp : UInt64) (line : Line) : Prop :=
  ∃ digits, line = "#define TOKEN_ITERATION_VERSION 0x".toList ++ digits ∧ 8 ≤ digits.length ∧
    (∀ c ∈ digits, Text.isCapitalDigit c = true) ∧ Text.number? 16 digits = some stamp.toNat

theorem stampLine_eq (stamp : UInt64) : (stampLine stamp).line =
    "#define TOKEN_ITERATION_VERSION 0x".toList ++ (Text.hex 8 stamp.toNat).toList := by
  have hline := Constant.line_ofNat 0 "TOKEN_ITERATION_VERSION" stamp.toNat
  rw [Text.Numeral.ofNat, String.toList_append] at hline
  exact hline

theorem showsStamp_stampLine (stamp : UInt64) : ShowsStamp stamp (stampLine stamp).line := by
  refine ⟨(Text.hex 8 stamp.toNat).toList, stampLine_eq stamp, ?_, ?_, ?_⟩
  · exact Text.le_length_hex 8 stamp.toNat
  · intro c hc
    exact Text.isCapitalDigit_of_mem_hex hc
  · exact Text.number?_hex 8 stamp.toNat

/-- One line shows one stamp. -/
theorem ShowsStamp.unique {stamp stamp' : UInt64} {line : Line} (h : ShowsStamp stamp line)
    (h' : ShowsStamp stamp' line) : stamp = stamp' := by
  obtain ⟨digits, hline, -, -, hnumber⟩ := h
  obtain ⟨digits', hline', -, -, hnumber'⟩ := h'
  have hdigits : digits = digits' := List.append_cancel_left (hline.symm.trans hline')
  rw [← hdigits, hnumber] at hnumber'
  exact UInt64.toNat_inj.mp (Option.some.inj hnumber')

theorem newline_not_mem_stampLine (stamp : UInt64) : '\n' ∉ (stampLine stamp).line :=
  (Constant.isPrinted_line (by decide) 0 stamp.toNat).2

/-- What follows the line of the stamp is the same for all stamps. -/
theorem exists_lines_eq (c : Compiled) : ∃ closing : List Line, ∀ stamp,
    Text.lines (wholeText c stamp) = openingLines ++ (stampLine stamp).line :: closing := by
  -- the stamp is read for one line only, and any stamp will do for those behind it
  let rest : List Line := ((leadingLines c 0).drop 4).map (·.line) ++
    legacyLines.map (·.toList) ++ closingLines.map (·.line)
  refine ⟨(Text.terminated '\n' rest).splitOn '\n', fun stamp => ?_⟩
  have hleading : leadingLines c stamp =
      [.verbatim ("#ifndef " ++ guard), .verbatim ("#define " ++ guard), .verbatim "",
        stampLine stamp] ++ (leadingLines c 0).drop 4 := rfl
  have hlines : [[], bannerLine, []] ++ (leadingLines c stamp).map (·.line) ++
      legacyLines.map (·.toList) ++ closingLines.map (·.line) =
      openingLines ++ (stampLine stamp).line :: rest := by
    rw [hleading, List.map_append]
    simp only [rest, openingLines, List.append_assoc]
    rfl
  have htext : (wholeText c stamp).toList = Text.terminated '\n' openingLines ++
      ((stampLine stamp).line ++ '\n' :: Text.terminated '\n' rest) := by
    rw [toList_wholeText, ← lines_eq, hlines, Text.terminated_append, Text.terminated_cons]
  have hopening : ∀ line ∈ openingLines, '\n' ∉ line := by decide
  rw [Text.lines, htext, Text.splitOn_terminated_append hopening,
    List.splitOn_append_cons_self_of_not_mem (newline_not_mem_stampLine stamp)]

end Artifact.Header

/-- Lists that agree around one place differ in this place only, if they do. -/
theorem getElem?_ne_iff_of_around {α : Type} {front back : List α} {x y : α} (h : x ≠ y) (i : Nat) :
    (front ++ x :: back)[i]? ≠ (front ++ y :: back)[i]? ↔ i = front.length := by
  rcases Nat.lt_trichotomy i front.length with hi | rfl | hi
  · rw [List.getElem?_append_left hi, List.getElem?_append_left hi]
    exact iff_of_false (fun hne => hne rfl) (Nat.ne_of_lt hi)
  · rw [List.getElem?_append_right (Nat.le_refl _), List.getElem?_append_right (Nat.le_refl _),
      Nat.sub_self, List.getElem?_cons_zero, List.getElem?_cons_zero]
    exact iff_of_true (fun heq => h (Option.some.inj heq)) rfl
  · rw [List.getElem?_append_right (Nat.le_of_lt hi), List.getElem?_append_right (Nat.le_of_lt hi)]
    obtain ⟨k, hk⟩ : ∃ k, i - front.length = k + 1 := ⟨i - front.length - 1, by omega⟩
    rw [hk, List.getElem?_cons_succ, List.getElem?_cons_succ]
    exact iff_of_false (fun hne => hne rfl) (Nat.ne_of_gt hi)

open Artifact (Header.ShowsStamp Header.stampRow)

/-- A table that compiles has artifacts under every stamp or, if a name is too long for the header,
under none. Under two stamps the headers differ in one line, which shows the stamp, and the sources
do not differ. -/
theorem Artifacts.differ_in_stampRow {t : Table} {c : Compiled} (h : t.compile = .ok c)
    {stamp stamp' : UInt64} (hne : stamp ≠ stamp') :
    ((∀ d ∈ t.definitions, d.NameFits) ↔
      ∃ a a', ofCompiled? c stamp = some a ∧ ofCompiled? c stamp' = some a') ∧
    ∀ a a', ofCompiled? c stamp = some a → ofCompiled? c stamp' = some a' →
      a.source = a'.source ∧
      (Text.lines a.header).length = (Text.lines a'.header).length ∧
      (∀ i, (Text.lines a.header)[i]? ≠ (Text.lines a'.header)[i]? ↔ i = Header.stampRow) ∧
      (∃ line, (Text.lines a.header)[Header.stampRow]? = some line ∧
        Header.ShowsStamp stamp line) ∧
      ∃ line, (Text.lines a'.header)[Header.stampRow]? = some line ∧
        Header.ShowsStamp stamp' line := by
  have hrepr := (Table.compile_represents h).1
  obtain ⟨closing, hlines⟩ := Artifact.Header.exists_lines_eq c
  have hshows := Artifact.Header.showsStamp_stampLine
  -- a line shows one stamp at most
  have hline :
      (Artifact.Header.stampLine stamp).line ≠ (Artifact.Header.stampLine stamp').line := by
    intro heq
    have hshows' := hshows stamp'
    rw [← heq] at hshows'
    exact hne ((hshows stamp).unique hshows')
  constructor
  · constructor
    · intro hfit
      obtain ⟨a, ha⟩ := (hrepr.exists_artifacts_iff stamp).mpr hfit
      obtain ⟨a', ha'⟩ := (hrepr.exists_artifacts_iff stamp').mpr hfit
      exact ⟨a, a', ha, ha'⟩
    · rintro ⟨a, -, ha, -⟩
      exact (hrepr.exists_artifacts_iff stamp).mp ⟨a, ha⟩
  · intro a a' ha ha'
    obtain ⟨-, rfl⟩ := ofCompiled?_eq_some_iff.mp ha
    obtain ⟨-, rfl⟩ := ofCompiled?_eq_some_iff.mp ha'
    -- the lines around the row of the stamp are the same for both
    dsimp only
    rw [hlines, hlines]
    refine ⟨rfl, ?_, ?_, ?_, ?_⟩
    · rw [List.length_append, List.length_append, List.length_cons, List.length_cons]
    · intro i
      exact getElem?_ne_iff_of_around hline i
    · exact ⟨_, rfl, hshows stamp⟩
    · exact ⟨_, rfl, hshows stamp'⟩

/-- A token and an alias whose constants look like those of the stamp. -/
def Table.imitating : Table where
  definitions := [⟨"if", .keyword, .idOnly, none⟩, ⟨"iteration_version", .operator, .idOnly, none⟩]
  aliases := [⟨"iteration_version_", "iteration_version", none⟩]

theorem Table.compile_imitating : Table.imitating.compile = .ok (Compiled.ofTable imitating) := by
  rw [compile_eq_ok_iff]
  exact ⟨⟨by decide, by decide, by decide, by decide⟩, rfl⟩

/-- The line of the token begins as that of the stamp does. One of the stamps has sixteen digits. -/
theorem Artifacts.imitating_differ :
    Table.imitating.compile = .ok (Compiled.ofTable Table.imitating) ∧
    (0 : UInt64) ≠ 0xFEDCBA9876543210 ∧
    (Artifact.Header.entryLines (Compiled.ofTable Table.imitating)).map (·.line) =
      ["#define TOKEN_ITERATION_VERSION 0x00000000".toList,
        "#define TOKEN_IF                0x00000001".toList] ∧
    ∃ a a', ofCompiled? (Compiled.ofTable Table.imitating) 0 = some a ∧
      ofCompiled? (Compiled.ofTable Table.imitating) 0xFEDCBA9876543210 = some a' ∧
      a.source = a'.source ∧
      ∀ i, (Text.lines a.header)[i]? ≠ (Text.lines a'.header)[i]? ↔ i = Header.stampRow := by
  have hne : (0 : UInt64) ≠ 0xFEDCBA9876543210 := by decide
  obtain ⟨hiff, hdiffer⟩ := differ_in_stampRow Table.compile_imitating hne
  obtain ⟨a, a', ha, ha'⟩ := hiff.mp (by decide)
  obtain ⟨hsource, -, hrow, -, -⟩ := hdiffer a a' ha ha'
  exact ⟨Table.compile_imitating, hne, by cbv, a, a', ha, ha', hsource, hrow⟩

end Lexicon
