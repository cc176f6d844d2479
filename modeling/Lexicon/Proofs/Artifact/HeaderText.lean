import Mathlib.Tactic.FinCases
import Lexicon.Artifact.Header
import Lexicon.Proofs.Token.Name
import Lexicon.Proofs.Text.Numerals

namespace Lexicon.Artifact

open Text (Line Numeral)

structure Constant where
  name : String
  number : Numeral
  deriving DecidableEq, Repr

namespace Constant

/-- Reads the line of a constant: its name up to a blank, and its number behind the blanks. -/
def read? (line : Line) : Option Constant :=
  ("#define ".toList.isPrefixOf? line).bind fun rest =>
    (Numeral.read? ((rest.dropWhile (· != ' ')).dropWhile (· == ' '))).map fun number =>
      ⟨String.ofList (rest.takeWhile (· != ' ')), number⟩

def valueOf? (name : String) (line : Line) : Option Nat :=
  (read? line).bind fun c => if c.name = name then some c.number.value else none

def ofNat (name : String) (n : Nat) : Constant := ⟨name, .ofNat n⟩

end Constant

structure HeaderText where
  stamp : Nat
  constants : List Constant
  maxToken : Nat
  firstKeyword : Nat
  formats : List Constant
  deriving DecidableEq, Repr

namespace HeaderText

def read? (text : String) : Option HeaderText :=
  match Text.sections text with
  | _ :: _ :: _ :: [stamp] :: constants :: [maxToken, firstKeyword] :: formats :: _ =>
    (Constant.valueOf? "TOKEN_ITERATION_VERSION" stamp).bind fun stamp =>
    (constants.mapM Constant.read?).bind fun constants =>
    (Constant.valueOf? "MAX_LEX_TOKEN" maxToken).bind fun maxToken =>
    (Constant.valueOf? "BEGINNING_OF_KEYWORD_TOKENS" firstKeyword).bind fun firstKeyword =>
    (formats.mapM Constant.read?).map fun formats =>
      ⟨stamp, constants, maxToken, firstKeyword, formats⟩
  | _ => none

def ofCompiled (c : Compiled) (stamp : UInt64) : HeaderText where
  stamp := stamp.toNat
  constants := c.entries.map (fun e => .ofNat e.definition.constant e.id.position)
    ++ c.aliases.map fun a => .ofNat a.source.constant a.id.position
  maxToken := c.maxToken.toNat
  firstKeyword := c.firstKeyword.position
  formats := Payload.all.map fun p => .ofNat (Header.payloadConstant p) p.code

end HeaderText

def HeaderLine.line : HeaderLine → Line
  | .constant name width value => ("#define " ++ padEnd width name ++ " " ++ value).toList
  | .verbatim text => text.toList

theorem HeaderLine.toList_text (l : HeaderLine) : l.text.toList = l.line ++ ['\n'] := by
  cases l <;> exact String.toList_append

def Constant.line (width : Nat) (c : Constant) : Line :=
  (HeaderLine.constant c.name width c.number.spelling).line

namespace Constant

theorem line_ofNat (width : Nat) (name : String) (n : Nat) : (ofNat name n).line width =
    "#define ".toList ++ (name.toList ++ (List.replicate (width - name.length + 1) ' ' ++
      (Numeral.ofNat n).spelling.toList)) := by
  rw [line, HeaderLine.line, padEnd, List.replicate_succ']
  simp only [String.toList_append, String.toList_ofList, List.append_assoc]
  rfl

def IsRegular (c : Constant) : Prop := WellFormedName c.name ∧ ∃ n, c.number = .ofNat n

variable {name : String} (h : WellFormedName name) (width n : Nat)
include h

/-- A line of a constant is read as that constant, however far its name is filled up. -/
theorem read?_line : read? ((ofNat name n).line width) = some (ofNat name n) := by
  have hname : ∀ c ∈ name.toList, (c != ' ') = true :=
    fun c hc => bne_iff_ne.mpr ((h.2 c hc).ne (by decide))
  have hblanks : ∀ c ∈ List.replicate (width - name.length + 1) ' ', (c == ' ') = true :=
    fun c hc => beq_iff_eq.mpr (List.eq_of_mem_replicate hc)
  -- the blanks end the name, and the marker of the number ends the blanks
  have hstop :
      (List.replicate (width - name.length + 1) ' ' ++ (Numeral.ofNat n).spelling.toList).takeWhile
        (· != ' ') = [] := rfl
  have hkeep :
      (List.replicate (width - name.length + 1) ' ' ++ (Numeral.ofNat n).spelling.toList).dropWhile
        (· != ' ') =
      List.replicate (width - name.length + 1) ' ' ++ (Numeral.ofNat n).spelling.toList := rfl
  have hnumber : (Numeral.ofNat n).spelling.toList.dropWhile (· == ' ') =
      (Numeral.ofNat n).spelling.toList := by
    rw [Numeral.ofNat, String.toList_append]
    rfl
  rw [line_ofNat, read?, Text.isPrefixOf?_append, Option.bind_some,
    List.takeWhile_append_of_pos hname, List.dropWhile_append_of_pos hname, hstop, hkeep,
    List.dropWhile_append_of_pos hblanks, hnumber, Numeral.read?_ofNat, Option.map_some,
    List.append_nil, String.ofList_toList]
  rfl

theorem valueOf?_line : valueOf? name ((ofNat name n).line width) = some n := by
  rw [valueOf?, read?_line h, Option.bind_some, if_pos]
  · rfl
  · rfl

theorem isPrinted_line : Text.IsPrinted ((ofNat name n).line width) := by
  have hstem : '\n' ∉ "#define ".toList := by decide
  rw [line_ofNat]
  refine ⟨List.cons_ne_nil _ _, fun hmem => ?_⟩
  rcases List.mem_append.mp hmem with hc | hc
  · exact hstem hc
  rcases List.mem_append.mp hc with hc | hc
  · exact (h.2 _ hc).ne (by decide) rfl
  rcases List.mem_append.mp hc with hc | hc
  · exact absurd (List.eq_of_mem_replicate hc) (by decide)
  · exact absurd (Numeral.isAlphanum_of_mem_ofNat hc) (by decide)

omit h
variable {cs : List Constant} (hcs : ∀ c ∈ cs, c.IsRegular)
include hcs

theorem isPrinted_lines : ∀ l ∈ cs.map (line width), Text.IsPrinted l := by
  intro l hline
  obtain ⟨⟨name, number⟩, hc, rfl⟩ := List.mem_map.mp hline
  obtain ⟨hname, n, rfl⟩ := hcs _ hc
  exact isPrinted_line hname width n

/-- Lines of constants are read back in order. -/
theorem mapM_read?_lines : (cs.map (line width)).mapM read? = some cs := by
  have hread : ∀ c ∈ cs, read? (line width c) = some (id c) := by
    intro ⟨name, number⟩ hc
    obtain ⟨hname, n, rfl⟩ := hcs _ hc
    exact read?_line hname width n
  rw [Text.mapM_map_eq_some hread, List.map_id]

end Constant

def bannerLine : Line := "// This file was auto-generated by 'tokengen'".toList

theorem toList_banner : banner.toList = Text.terminated '\n' [[], bannerLine, []] := rfl

namespace Header

def wholeText (c : Compiled) (stamp : UInt64) : String :=
  String.join (banner :: (leadingLines c stamp).map (·.text) ++
    legacyBlock :: closingLines.map (·.text))

def formatColumn : Nat := (Payload.all.map fun p => (payloadConstant p).length).foldl max 0

def leadingSections (c : Compiled) (stamp : UInt64) : List (List Line) :=
  let text := HeaderText.ofCompiled c stamp
  [[], [bannerLine], [("#ifndef " ++ guard).toList, ("#define " ++ guard).toList],
    [(Constant.ofNat "TOKEN_ITERATION_VERSION" text.stamp).line 0],
    text.constants.map (Constant.line (column c)),
    [(Constant.ofNat "MAX_LEX_TOKEN" text.maxToken).line 0,
      (Constant.ofNat "BEGINNING_OF_KEYWORD_TOKENS" text.firstKeyword).line 0],
    text.formats.map (Constant.line formatColumn)]

def declarationSections : List (List Line) :=
  [["extern const char *global_token_name_table[];".toList,
    "extern const char global_token_extra_format_table[];".toList],
   ["extern const char *global_token_keywords_list[];".toList,
    "extern unsigned long long global_token_keywords_list_length;".toList]]

def legacySection : List Line := legacyLines.tail.map (·.toList)

def frontSections (c : Compiled) (stamp : UInt64) : List (List Line) :=
  leadingSections c stamp ++ declarationSections ++ [legacySection]

def lastLine : Line := ("#endif // " ++ guard).toList

theorem isPrinted_declarations : ∀ part ∈ declarationSections, ∀ l ∈ part, Text.IsPrinted l := by
  intro part hpart l hl
  fin_cases hpart <;> fin_cases hl <;> (apply Text.isPrinted_ofList; decide)

theorem isPrinted_legacy : ∀ l ∈ legacySection, Text.IsPrinted l := by
  intro l hl
  obtain ⟨s, hs, rfl⟩ := List.mem_map.mp hl
  fin_cases hs <;> (apply Text.isPrinted_ofList; decide)

/-- Line by line, what is written is what the sections are made of. -/
theorem lines_eq (c : Compiled) (stamp : UInt64) :
    [[], bannerLine, []] ++ (leadingLines c stamp).map (·.line) ++ legacyLines.map (·.toList) ++
      closingLines.map (·.line) = Text.terminated [] (frontSections c stamp) ++ [lastLine] := by
  have hconstants : (entryLines c).map (·.line) ++ (aliasLines c).map (·.line) =
      (HeaderText.ofCompiled c stamp).constants.map (Constant.line (column c)) := by
    rw [HeaderText.ofCompiled, entryLines, aliasLines, List.map_append, List.map_map, List.map_map,
      List.map_map, List.map_map]
    rfl
  rw [leadingLines, List.map_append, List.map_append, List.map_append, List.map_append,
    List.map_append, List.append_assoc (List.map _ _) (List.map _ _), hconstants]
  simp only [frontSections, leadingSections, Text.terminated, List.flatMap_append,
    List.flatMap_cons, List.flatMap_nil, List.append_assoc, List.cons_append, List.nil_append]
  rfl

/-- The text of the header is its sections, one after the other. -/
theorem toList_wholeText (c : Compiled) (stamp : UInt64) : (wholeText c stamp).toList =
    Text.terminated '\n' (Text.terminated [] (frontSections c stamp) ++ [lastLine]) := by
  have hlines (ls : List HeaderLine) :
      (ls.map (·.text)).flatMap (·.toList) = Text.terminated '\n' (ls.map (·.line)) := by
    apply Text.flatMap_toList_of_lines
    rw [List.map_map, List.map_map]
    exact List.map_congr_left fun l _ => l.toList_text
  have hlegacy : legacyBlock.toList = Text.terminated '\n' (legacyLines.map (·.toList)) := by
    rw [legacyBlock, String.toList_join]
    apply Text.flatMap_toList_of_lines
    rw [List.map_map, List.map_map]
    exact List.map_congr_left fun l _ => String.toList_append
  rw [wholeText, String.toList_join, List.flatMap_append, List.flatMap_cons,
    List.flatMap_cons, hlines, hlines, toList_banner, hlegacy, ← lines_eq, Text.terminated_append,
    Text.terminated_append, Text.terminated_append, List.append_assoc, List.append_assoc,
    List.append_assoc]

end Header

/-- A compiled table whose names can stand in constants. -/
structure WellNamed (c : Compiled) : Prop where
  entries : ∀ e ∈ c.entries, WellFormedName e.definition.name
  aliases : ∀ a ∈ c.aliases, WellFormedName a.source.name

namespace HeaderText

theorem isRegular_formats (c : Compiled) (stamp : UInt64) :
    ∀ k ∈ (ofCompiled c stamp).formats, k.IsRegular := by
  have hnames : ∀ p : Payload, WellFormedName (Header.payloadConstant p) := by
    intro p
    cases p <;> decide
  intro k hk
  obtain ⟨p, -, rfl⟩ := List.mem_map.mp hk
  exact ⟨hnames p, _, rfl⟩

variable {c : Compiled} (hnames : WellNamed c) (stamp : UInt64)
include hnames

theorem isRegular_constants : ∀ k ∈ (ofCompiled c stamp).constants, k.IsRegular := by
  intro k hk
  rcases List.mem_append.mp hk with hk | hk
  · obtain ⟨e, he, rfl⟩ := List.mem_map.mp hk
    exact ⟨(hnames.entries e he).constantName, _, rfl⟩
  · obtain ⟨a, ha, rfl⟩ := List.mem_map.mp hk
    exact ⟨(hnames.aliases a ha).constantName, _, rfl⟩

theorem isPrinted_leadingSections :
    ∀ part ∈ Header.leadingSections c stamp, ∀ l ∈ part, Text.IsPrinted l := by
  have hstamp : WellFormedName "TOKEN_ITERATION_VERSION" := by decide
  have hmax : WellFormedName "MAX_LEX_TOKEN" := by decide
  have hfirst : WellFormedName "BEGINNING_OF_KEYWORD_TOKENS" := by decide
  simp only [Header.leadingSections, List.mem_cons, List.not_mem_nil, forall_eq_or_imp,
    false_implies, implies_true, and_true, true_and]
  refine ⟨by decide, ⟨by decide, by decide⟩, Constant.isPrinted_line hstamp _ _,
    Constant.isPrinted_lines _ (isRegular_constants hnames stamp),
    ⟨Constant.isPrinted_line hmax _ _, Constant.isPrinted_line hfirst _ _⟩,
    Constant.isPrinted_lines _ (isRegular_formats c stamp)⟩

/-- The sections of the written header. -/
theorem sections_header : Text.sections (Header.wholeText c stamp) =
    Header.frontSections c stamp ++ [[Header.lastLine], []] := by
  apply Text.sections_eq_of_last (Header.toList_wholeText c stamp)
  simp only [Header.frontSections, List.forall_mem_append, List.forall_mem_singleton]
  exact ⟨⟨⟨isPrinted_leadingSections hnames stamp, Header.isPrinted_declarations⟩,
    Header.isPrinted_legacy⟩, by decide⟩

/-- The written header is read back whole. -/
theorem read?_header : read? (Header.wholeText c stamp) = some (ofCompiled c stamp) := by
  rw [read?, sections_header hnames]
  simp only [Header.frontSections, Header.leadingSections, List.cons_append]
  rw [Constant.valueOf?_line (by decide),
    Constant.mapM_read?_lines _ (isRegular_constants hnames stamp),
    Constant.valueOf?_line (by decide), Constant.valueOf?_line (by decide),
    Constant.mapM_read?_lines _ (isRegular_formats c stamp)]
  rfl

end HeaderText

end Lexicon.Artifact
