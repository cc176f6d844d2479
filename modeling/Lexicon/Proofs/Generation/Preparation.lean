import Mathlib
import Lexicon.Generation
import Lexicon.Proofs.Artifact.Agreement
import Lexicon.Proofs.Table.Rearrangement

namespace Lexicon

open Text (Line)

theorem Table.represents_of_compile {t : Table} {c : Compiled} (h : t.compile = .ok c) :
    c.Represents t := by
  obtain ⟨ha, rfl⟩ := (compile_eq_ok_iff t c).mp h
  exact Compiled.represents_ofTable ha

namespace Artifact

theorem Listing.text?_eq_some {c : Compiled} (h : c.BoundaryInside) :
    ∃ listing, text? c = some listing := by
  rw [text?, value?, Compiled.keywords?, if_pos h]
  exact ⟨_, rfl⟩

/-- The source artifact is written from the entries and the boundary alone. -/
theorem Source.text?_congr {c c' : Compiled} (hentries : c'.entries = c.entries)
    (hfirst : c'.firstKeyword = c.firstKeyword) : text? c' = text? c := by
  obtain ⟨entries, aliases, first⟩ := c
  obtain ⟨entries', aliases', first'⟩ := c'
  obtain rfl : entries' = entries := hentries
  obtain rfl : first' = first := hfirst
  rfl

namespace Header

/-- The column of the constants is that of the longest name of an entry. -/
theorem column_congr {c c' : Compiled} (h : c'.entries = c.entries) : column c' = column c := by
  rw [column, column, h]

def constantLines (header : String) : List Line := (Text.sections header).getD 4 []

theorem getElem?_constantLines {t : Table} {c : Compiled} (hnames : WellNamed c)
    (hrepr : c.Represents t) (stamp : UInt64) {i : Nat} {e : Entry} (he : c.entries[i]? = some e) :
    (constantLines (wholeText c stamp))[i]? =
      some ((Constant.ofNat e.definition.constant i).line (column c)) := by
  have hlines : constantLines (wholeText c stamp) =
      (HeaderText.ofCompiled c stamp).constants.map (Constant.line (column c)) := by
    rw [constantLines, HeaderText.sections_header hnames]
    rfl
  rw [hlines, List.getElem?_map, getElem?_constants hrepr he, Option.map_some]

end Header

end Artifact

namespace Generation

variable {t : Table} {c : Compiled} {stamp : UInt64}

/-- What is prepared is everything that there is of the compiled table. -/
theorem prepare_eq_ok_iff (h : t.compile = .ok c) {p : Prepared} : prepare t stamp = .ok p ↔
    ∃ artifacts listing keywords, Artifacts.ofCompiled? c stamp = some artifacts ∧
      Artifact.Listing.text? c = some listing ∧ c.keywords? = some keywords ∧
      p = ⟨c, stamp, artifacts, listing, keywords⟩ := by
  rw [prepare, h]
  simp only [Fallible.bind_eq_ok_iff, orHalt_eq_ok_iff]
  constructor
  · rintro ⟨artifacts, hartifacts, listing, hlisting, keywords, hkeywords, hp⟩
    exact ⟨artifacts, listing, keywords, hartifacts, hlisting, hkeywords, (Except.ok.inj hp).symm⟩
  · rintro ⟨artifacts, listing, keywords, hartifacts, hlisting, hkeywords, rfl⟩
    exact ⟨artifacts, hartifacts, listing, hlisting, keywords, hkeywords, rfl⟩

/-- Of a table that compiles, everything is rendered if all its names fit into the header. -/
theorem exists_prepare_eq_ok (h : t.compile = .ok c) (hfit : ∀ d ∈ t.definitions, d.NameFits)
    (stamp : UInt64) : ∃ artifacts listing keywords,
      prepare t stamp = .ok ⟨c, stamp, artifacts, listing, keywords⟩ := by
  have hrepr := Table.represents_of_compile h
  obtain ⟨artifacts, hartifacts⟩ := (hrepr.exists_artifacts_iff stamp).mpr hfit
  obtain ⟨listing, hlisting⟩ := Artifact.Listing.text?_eq_some hrepr.boundaryInside
  have hkeywords := Compiled.keywords?_of_boundaryInside hrepr.boundaryInside
  exact ⟨artifacts, listing, _, (prepare_eq_ok_iff h).mpr
    ⟨artifacts, listing, _, hartifacts, hlisting, hkeywords, rfl⟩⟩

/-- Otherwise rendering halts. -/
theorem prepare_eq_halted (h : t.compile = .ok c) (hwide : ¬∀ d ∈ t.definitions, d.NameFits)
    (stamp : UInt64) : prepare t stamp = .error .halted := by
  have hnone : Artifacts.ofCompiled? c stamp = none := by
    rw [Option.eq_none_iff_forall_ne_some]
    intro artifacts hsome
    exact hwide (((Table.represents_of_compile h).exists_artifacts_iff stamp).mp ⟨artifacts, hsome⟩)
  rw [prepare, h]
  dsimp only
  rw [hnone]
  rfl

end Generation

open Artifact (Header.constantLines Constant) in
/-- Two tables that differ only in where their keywords are written compile to the same result or
not at all, and everything that is rendered for them is the same, or rendering halts for both. With
other aliases, too, the source artifact is the same, and so are the header lines of all definitions
in any two headers; there are such headers for both or, if a name is too long, for none. -/
theorem Table.compile_rearranged {t u : Table} (h : t.Rearranges u) :
    (t.aliases = u.aliases → ∀ c, (t.compile = .ok c ↔ u.compile = .ok c) ∧
      (t.compile = .ok c → ∀ stamp, Generation.prepare t stamp = Generation.prepare u stamp ∧
        ((∃ artifacts listing keywords,
          Generation.prepare t stamp = .ok ⟨c, stamp, artifacts, listing, keywords⟩) ↔
            ∀ d ∈ t.definitions, d.NameFits))) ∧
    ∀ c c', t.compile = .ok c → u.compile = .ok c' → ∀ stamp stamp',
      (∃ source, Artifact.Source.text? c = some source ∧
        Artifact.Source.text? c' = some source) ∧
      ((∃ header, Artifact.Header.text? c stamp = some header) ↔
        ∃ header', Artifact.Header.text? c' stamp' = some header') ∧
      ∀ header header', Artifact.Header.text? c stamp = some header →
        Artifact.Header.text? c' stamp' = some header' →
        ∀ i (e : Entry), c.entries[i]? = some e → ∃ line,
          (Header.constantLines header)[i]? = some line ∧
          (Header.constantLines header')[i]? = some line ∧
          Constant.read? line = some (.ofNat e.definition.constant i) := by
  refine ⟨fun haliases c => ⟨⟨?_, ?_⟩, ?_⟩, ?_⟩
  · exact h.compile_eq_ok haliases
  · exact h.symm.compile_eq_ok haliases.symm
  · intro hc stamp
    -- what is prepared depends on the compiled table alone
    have hu := h.compile_eq_ok haliases hc
    have hsame : Generation.prepare t stamp = Generation.prepare u stamp := by
      rw [Generation.prepare, Generation.prepare, hc, hu]
    refine ⟨hsame, fun ⟨artifacts, listing, keywords, hprepare⟩ => ?_, fun hfit => ?_⟩
    · obtain ⟨artifacts, -, -, hartifacts, -⟩ := (Generation.prepare_eq_ok_iff hc).mp hprepare
      exact ((represents_of_compile hc).exists_artifacts_iff stamp).mp ⟨artifacts, hartifacts⟩
    · exact Generation.exists_prepare_eq_ok hc hfit stamp
  · intro c c' hc hc' stamp stamp'
    obtain ⟨ha, rfl⟩ := (compile_eq_ok_iff t c).mp hc
    obtain ⟨ha', rfl⟩ := (compile_eq_ok_iff u c').mp hc'
    have hrepr := Compiled.represents_ofTable ha
    have hrepr' := Compiled.represents_ofTable ha'
    have hnamed := Artifact.wellNamed_of_represents hrepr ha.wellFormed
    have hnamed' := Artifact.wellNamed_of_represents hrepr' ha'.wellFormed
    obtain ⟨hentries, hfirst⟩ := h.ofTable_eq ((acceptable_iff t).mp ha).1.nodup_names
    have hsource := Artifact.Source.text?_of_boundaryInside hrepr.boundaryInside
    have hfits : (Compiled.ofTable t).NamesFit ↔ (Compiled.ofTable u).NamesFit := by
      rw [Compiled.NamesFit, Compiled.NamesFit, hentries]
    refine ⟨⟨_, hsource, (Artifact.Source.text?_congr hentries hfirst).trans hsource⟩, ?_, ?_⟩
    · simp only [Artifact.Header.text?_eq_some_iff, exists_and_left, exists_eq, and_true, hfits]
    · intro header header' hheader hheader' i e he
      obtain ⟨-, rfl⟩ := Artifact.Header.text?_eq_some_iff.mp hheader
      obtain ⟨-, rfl⟩ := Artifact.Header.text?_eq_some_iff.mp hheader'
      have he' : (Compiled.ofTable u).entries[i]? = some e := by rw [hentries, he]
      have hmem : e ∈ (Compiled.ofTable t).entries := List.mem_of_getElem? he
      have hline := Artifact.Header.getElem?_constantLines hnamed hrepr stamp he
      have hline' := Artifact.Header.getElem?_constantLines hnamed' hrepr' stamp' he'
      rw [Artifact.Header.column_congr hentries] at hline'
      exact ⟨_, hline, hline', Constant.read?_line (hnamed.entries e hmem).constantName _ _⟩

/-- The table with its keywords at the beginning, the one that comes last in front. -/
def Table.regrouped : Table where
  definitions := [⟨"while", .keyword, .idOnly, none⟩, ⟨"POD", .keyword, .idOnly, none⟩,
    ⟨"none", .plain, .idOnly, none⟩, ⟨"address", .operator, .memory, some "\"&\""⟩]
  aliases := [⟨"bit_and", "address", none⟩]

theorem Table.mixed_rearranged : Table.mixed.Rearranges Table.regrouped ∧
    Table.regrouped.compile = .ok Compiled.mixed := by
  have h : Table.mixed.Rearranges Table.regrouped := ⟨by decide, by decide⟩
  exact ⟨h, (((compile_rearranged h).1 rfl Compiled.mixed).1).mp Table.compile_mixed⟩

end Lexicon
