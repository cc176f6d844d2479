import Mathlib
import Lexicon.Proofs.Artifact.Agreement

/-! The macros that a header defines, read from its text. Validation compares the constants of
entries with each other only, while the header also defines constants of its own. Some of these
begin like the constant of an entry, so that one entry can make the header define a macro twice. -/
namespace Lexicon.Artifact

open Text (Line)

namespace Header

/-- The macro that a line defines: what follows up to a blank. -/
def definedName? (line : Line) : Option String :=
  ("#define ".toList.isPrefixOf? line).map fun rest => String.ofList (rest.takeWhile (· != ' '))

/-- The macros that the lines of a header define, outside of the legacy block. -/
def definedNames (text : String) : List String :=
  ((Text.sections text).filter (· != legacySection)).flatten.filterMap definedName?

/-- The short names whose constants the header defines anyway: that of the stamp, and those of the
payload codes. -/
def reservedNames : List String :=
  "iteration_version" :: Payload.all.map fun p => "extra_data_format_" ++ p.label

/-- The other macros that do not depend on the table. None of them begins like a constant. -/
def plainNames : List String := [guard, "MAX_LEX_TOKEN", "BEGINNING_OF_KEYWORD_TOKENS"]

theorem map_toUpper_eq {s u : String} (h : s.toList.map Char.toUpper = u.toList) :
    s.map Char.toUpper = u := by
  rw [← String.toList_inj, String.toList_map]
  exact h

theorem constantName_append (front back : String) :
    constantName (front ++ back) = constantName front ++ back.map Char.toUpper := by
  unfold constantName
  rw [← String.toList_inj]
  simp only [String.toList_append, String.toList_map, List.map_append, List.append_assoc]

/-- The constants of the reserved names are those that the header defines by itself, apart from the
entries. -/
theorem map_constantName_reservedNames : reservedNames.map constantName =
    "TOKEN_ITERATION_VERSION" :: Payload.all.map payloadConstant := by
  have hstamp : constantName "iteration_version" = "TOKEN_ITERATION_VERSION" := by
    rw [constantName, map_toUpper_eq (u := "ITERATION_VERSION") (by decide)]
    decide
  have hformat : constantName "extra_data_format_" = "TOKEN_EXTRA_DATA_FORMAT_" := by
    rw [constantName, map_toUpper_eq (u := "EXTRA_DATA_FORMAT_") (by decide)]
    decide
  -- the suffix of a format is its label in capitals
  have hlabel : ∀ p : Payload, p.label.map Char.toUpper = p.constantSuffix := by
    intro p
    apply map_toUpper_eq
    cases p <;> decide
  have hpayload : ∀ p : Payload,
      constantName ("extra_data_format_" ++ p.label) = payloadConstant p := by
    intro p
    calc
      constantName ("extra_data_format_" ++ p.label) =
          constantName "extra_data_format_" ++ p.label.map Char.toUpper := by
        rw [constantName_append]
      _ = payloadConstant p := congrArg₂ (· ++ ·) hformat (hlabel p)
  rw [reservedNames, List.map_cons, List.map_map, hstamp]
  exact congrArg _ (List.map_congr_left fun p _ => hpayload p)

theorem definedName?_line {name : String} (h : WellFormedName name) (width n : Nat) :
    definedName? ((Constant.ofNat name n).line width) = some name := by
  have hname : ∀ c ∈ name.toList, (c != ' ') = true :=
    fun c hc => bne_iff_ne.mpr ((h.2 c hc).ne (by decide))
  -- there is at least one blank behind the name, however far it is filled up
  have hstop : (List.replicate (width - name.length + 1) ' ' ++
      (Text.Numeral.ofNat n).spelling.toList).takeWhile (· != ' ') = [] := rfl
  rw [Constant.line_ofNat, definedName?, Text.isPrefixOf?_append, Option.map_some,
    List.takeWhile_append_of_pos hname, hstop, List.append_nil, String.ofList_toList]

theorem filterMap_definedName?_lines {cs : List Constant} (hcs : ∀ k ∈ cs, k.IsRegular)
    (width : Nat) : (cs.map (Constant.line width)).filterMap definedName? = cs.map (·.name) := by
  induction cs with
  | nil => rfl
  | cons k cs ih =>
    obtain ⟨hk, hrest⟩ := List.forall_mem_cons.mp hcs
    obtain ⟨name, number⟩ := k
    obtain ⟨hname, n, rfl⟩ := hk
    have hline : definedName? (Constant.line width ⟨name, .ofNat n⟩) = some name :=
      definedName?_line hname width n
    rw [List.map_cons, List.filterMap_cons, hline, ih hrest]
    rfl

/-- The legacy block begins with a remark. -/
theorem ne_legacySection {part : List Line} (h : part.head?.bind List.head? ≠ some '/') :
    part ≠ legacySection := by
  rintro rfl
  exact h rfl

theorem constantLines_ne_legacy (width : Nat) (cs : List Constant) :
    cs.map (Constant.line width) ≠ legacySection := by
  apply ne_legacySection
  cases cs with
  | nil => exact nofun
  | cons k cs =>
    have hline : (Constant.line width k).head? = some '#' := by
      rw [Constant.line, HeaderLine.line, String.toList_append, String.toList_append,
        String.toList_append]
      rfl
    change (Constant.line width k).head? ≠ some '/'
    rw [hline]
    decide

/-- The legacy block is the only section that is left out, whatever the entries are. -/
theorem filter_leadingSections (c : Compiled) (stamp : UInt64) :
    (leadingSections c stamp).filter (· != legacySection) = leadingSections c stamp := by
  rw [List.filter_eq_self]
  intro part hpart
  rw [bne_iff_ne]
  simp only [leadingSections, List.mem_cons, List.not_mem_nil, or_false] at hpart
  -- a section that begins like a macro, or has another length, is not the legacy block
  rcases hpart with rfl | rfl | rfl | rfl | rfl | rfl | rfl
  · decide
  · exact fun heq => absurd (congrArg List.length heq) (by decide)
  · exact ne_legacySection (by decide)
  · exact constantLines_ne_legacy 0 [_]
  · exact constantLines_ne_legacy _ _
  · exact constantLines_ne_legacy 0 [_, _]
  · exact constantLines_ne_legacy _ _

section
variable {c : Compiled} (hnames : WellNamed c) (stamp : UInt64)
include hnames

/-- The sections of a written header but for the legacy block. -/
theorem filter_sections_header :
    (Text.sections (wholeText c stamp)).filter (· != legacySection) =
      leadingSections c stamp ++ declarationSections ++ [[lastLine], []] := by
  have hdeclarations :
      declarationSections.filter (· != legacySection) = declarationSections := by
    rw [List.filter_eq_self]
    intro part hpart
    rw [bne_iff_ne]
    apply ne_legacySection
    fin_cases hpart <;> decide
  have hlast : [[lastLine], []].filter (· != legacySection) = [[lastLine], []] := by
    rw [List.filter_eq_self]
    intro part hpart
    rw [bne_iff_ne]
    apply ne_legacySection
    fin_cases hpart <;> decide
  -- no section but the legacy block itself is filtered out
  rw [HeaderText.sections_header hnames, frontSections, List.filter_append, List.filter_append,
    List.filter_append, filter_leadingSections, hdeclarations, hlast, List.filter_cons,
    bne_self_eq_false, if_neg Bool.false_ne_true, List.filter_nil, List.append_nil]

/-- Outside of the legacy block the header defines its own macros and the constants of the table,
each in a line of its own. -/
theorem definedNames_header : definedNames (wholeText c stamp) =
    [guard, "TOKEN_ITERATION_VERSION"] ++
      (c.entries.map (·.definition.constant) ++ c.aliases.map (·.source.constant)) ++
      ["MAX_LEX_TOKEN", "BEGINNING_OF_KEYWORD_TOKENS"] ++ Payload.all.map payloadConstant := by
  have hconstants : ((HeaderText.ofCompiled c stamp).constants.map
      (Constant.line (column c))).filterMap definedName? =
      c.entries.map (·.definition.constant) ++ c.aliases.map (·.source.constant) := by
    rw [filterMap_definedName?_lines (HeaderText.isRegular_constants hnames stamp),
      HeaderText.ofCompiled, List.map_append, List.map_map, List.map_map]
    rfl
  have hformats : ((HeaderText.ofCompiled c stamp).formats.map
      (Constant.line formatColumn)).filterMap definedName? = Payload.all.map payloadConstant := by
    rw [filterMap_definedName?_lines (HeaderText.isRegular_formats c stamp),
      HeaderText.ofCompiled, List.map_map]
    rfl
  -- the guard is defined without a value, and the remaining lines define nothing
  have hguard : [("#ifndef " ++ guard).toList, ("#define " ++ guard).toList].filterMap
      definedName? = [guard] := by decide
  have hbanner : [bannerLine].filterMap definedName? = [] := by decide
  have hdeclarations : declarationSections.flatten.filterMap definedName? = [] := by decide
  have hlast : [[lastLine], []].flatten.filterMap definedName? = [] := by decide
  rw [definedNames, filter_sections_header hnames, List.flatten_append, List.flatten_append,
    List.filterMap_append, List.filterMap_append, hdeclarations, hlast, List.append_nil,
    List.append_nil]
  simp only [leadingSections, List.flatten_cons, List.flatten_nil, List.filterMap_append,
    List.nil_append, List.append_nil, hbanner, hguard, hconstants, hformats]
  rw [List.filterMap_cons, definedName?_line (by decide), List.filterMap_cons,
    definedName?_line (by decide), List.filterMap_cons, definedName?_line (by decide)]
  simp only [List.filterMap_nil, List.append_assoc, List.cons_append, List.nil_append]

end

/-- No macro of the header's own begins like a constant, but for those with reserved names. -/
theorem ne_constantName {macroName : String} (h : macroName ∈ plainNames) (name : String) :
    macroName ≠ constantName name := by
  have hplain : ∀ p ∈ plainNames, p.toList.head? ≠ some 'T' := by decide
  rintro rfl
  apply hplain _ h
  rw [constantName, String.toList_append]
  rfl

theorem nodup_own : plainNames.Nodup ∧ (reservedNames.map constantName).Nodup := by
  rw [map_constantName_reservedNames]
  exact ⟨by decide, by decide⟩

/-- Macros of the header's own beside different constants: only reserved names can clash. -/
theorem nodup_append_iff {names : List String} (h : (names.map constantName).Nodup) :
    (plainNames ++ (reservedNames.map constantName ++ names.map constantName)).Nodup ↔
      ∀ name ∈ names, ∀ word ∈ reservedNames, ¬SameIgnoringCase name word := by
  have hplain : ∀ p ∈ plainNames,
      ∀ k ∈ reservedNames.map constantName ++ names.map constantName, p ≠ k := by
    intro p hp k hk
    rw [← List.map_append] at hk
    obtain ⟨name, -, rfl⟩ := List.mem_map.mp hk
    exact ne_constantName hp name
  rw [List.nodup_append, List.nodup_append, and_iff_right nodup_own.1, and_iff_left hplain,
    and_iff_right nodup_own.2, and_iff_right h]
  simp only [List.forall_mem_map, ne_eq, constantName_eq_iff]
  constructor
  · intro hne name hname word hword hsame
    exact hne word hword name hname hsame.symm
  · intro hne word hword name hname hsame
    exact hne name hname word hword hsame.symm

end Header

end Lexicon.Artifact

namespace Lexicon

open Artifact (Header.definedNames Header.reservedNames)

/-- Distinct names have distinct constants. -/
theorem Table.Acceptable.nodup_constants {t : Table} (h : t.Acceptable) :
    (t.names.map constantName).Nodup := by
  rw [List.nodup_iff_pairwise_ne, List.pairwise_map]
  exact h.distinct.imp fun hne heq => hne ((constantName_eq_iff _ _).mp heq)

/-- The constants in a represented table are those of its source, in another order. -/
theorem Compiled.Represents.constants_perm {t : Table} {c : Compiled} (h : c.Represents t) :
    (c.entries.map (·.definition.constant) ++ t.aliases.map (·.constant)).Perm
      (t.names.map constantName) := by
  have hentries := h.permuted.map (·.constant)
  rw [List.map_map] at hentries
  rw [Table.names, List.map_append, List.map_map, List.map_map]
  exact hentries.append_right _

/-- The macros of a header whose names are well-formed are its own ones and the constants of the
names. -/
theorem Artifact.Header.definedNames_perm {t : Table} {c : Compiled} (hnames : Artifact.WellNamed c)
    (h : c.Represents t) (stamp : UInt64) :
    (definedNames (wholeText c stamp)).Perm
      (plainNames ++ (reservedNames.map constantName ++ t.names.map constantName)) := by
  have hconstants := (h.constants_perm.append_left (reservedNames.map constantName)).append_left
    plainNames
  have haliases : c.aliases.map (·.source.constant) = t.aliases.map (·.constant) := by
    rw [← h.aliases, List.map_map]
    rfl
  apply List.Perm.trans _ hconstants
  rw [definedNames_header hnames, haliases, map_constantName_reservedNames, plainNames]
  generalize c.entries.map (·.definition.constant) ++ t.aliases.map (·.constant) = constants
  -- the same macros, those of the header's own brought to the front
  rw [List.perm_iff_count]
  intro name
  simp only [List.count_append, List.count_cons, List.count_nil]
  omega

/-- Outside of the legacy block, the header of a table that compiles defines no macro twice exactly
if no short name is reserved: validation compares the constants of entries with each other, but not
with the macros that the header defines anyway. There is such a header unless a name is too long for
it. -/
theorem Artifacts.nodup_definedNames_iff {t : Table} {c : Compiled} (h : t.compile = .ok c)
    (stamp : UInt64) :
    ((∃ artifacts, ofCompiled? c stamp = some artifacts) ↔ ∀ d ∈ t.definitions, d.NameFits) ∧
    ∀ artifacts, ofCompiled? c stamp = some artifacts →
      Header.definedNames artifacts.header =
        [Artifact.Header.guard, "TOKEN_ITERATION_VERSION"] ++
          (c.entries.map (·.definition.constant) ++ t.aliases.map (·.constant)) ++
          ["MAX_LEX_TOKEN", "BEGINNING_OF_KEYWORD_TOKENS"] ++
          Payload.all.map Artifact.Header.payloadConstant ∧
      ((Header.definedNames artifacts.header).Nodup ↔
        ∀ name ∈ t.names, ∀ word ∈ Header.reservedNames, ¬SameIgnoringCase name word) := by
  obtain ⟨ha, rfl⟩ := (Table.compile_eq_ok_iff t c).mp h
  have hrepr := Compiled.represents_ofTable ha
  have hnamed := Artifact.wellNamed_of_represents hrepr ha.wellFormed
  -- the aliases keep the order of the source
  have haliases : (Compiled.ofTable t).aliases.map (·.source.constant) =
      t.aliases.map (·.constant) := by
    conv_rhs => rw [← hrepr.aliases, List.map_map]
    rfl
  refine ⟨hrepr.exists_artifacts_iff stamp, fun artifacts hsome => ?_⟩
  obtain ⟨-, rfl⟩ := ofCompiled?_eq_some_iff.mp hsome
  constructor
  · dsimp only
    rw [Artifact.Header.definedNames_header hnamed, haliases]
  · dsimp only
    rw [(Artifact.Header.definedNames_perm hnamed hrepr stamp).nodup_iff]
    exact Artifact.Header.nodup_append_iff ha.nodup_constants

def Table.reserved : Table := ⟨[⟨"iteration_version", .operator, .idOnly, none⟩], []⟩

theorem Table.acceptable_reserved : Table.reserved.Acceptable :=
  ⟨by decide, by decide, by decide, by decide⟩

/-- Its constant is also that of the stamp. -/
theorem Artifacts.reserved_definedNames : ∃ c artifacts, Table.reserved.compile = .ok c ∧
    ofCompiled? c 0 = some artifacts ∧ ¬(Header.definedNames artifacts.header).Nodup := by
  have hrepr := Compiled.represents_ofTable Table.acceptable_reserved
  have hnamed :=
    Artifact.wellNamed_of_represents hrepr Table.acceptable_reserved.wellFormed
  have hcompile := (Table.compile_eq_ok_iff _ _).mpr ⟨Table.acceptable_reserved, rfl⟩
  obtain ⟨artifacts, hsome⟩ := (hrepr.exists_artifacts_iff 0).mpr (by decide)
  refine ⟨_, artifacts, hcompile, hsome, ?_⟩
  obtain ⟨-, rfl⟩ := ofCompiled?_eq_some_iff.mp hsome
  dsimp only
  rw [(Artifact.Header.definedNames_perm hnamed hrepr 0).nodup_iff,
    Artifact.Header.nodup_append_iff Table.acceptable_reserved.nodup_constants]
  decide

theorem Artifacts.mixed_definedNames : Table.mixed.compile = .ok Compiled.mixed ∧
    ∃ artifacts, ofCompiled? Compiled.mixed 7 = some artifacts ∧
      (Header.definedNames artifacts.header).Nodup := by
  obtain ⟨hiff, hnames⟩ := nodup_definedNames_iff Table.compile_mixed 7
  obtain ⟨artifacts, hsome⟩ := hiff.mpr (by decide)
  exact ⟨Table.compile_mixed, artifacts, hsome, (hnames artifacts hsome).2.mpr (by decide)⟩

end Lexicon
