import Mathlib
import Lexicon.Proofs.Artifact.Agreement
import Lexicon.Proofs.Artifact.LiteralBody

namespace Lexicon.Artifact

open Text (Line Numeral)

structure SourceContent where
  displayNames : List String
  payloads : List Payload
  keywords : List String
  deriving DecidableEq, Repr

namespace SourceContent

def ofCompiled (c : Compiled) : SourceContent where
  displayNames := c.entries.map (·.definition.displayName)
  payloads := c.entries.map (·.definition.payload)
  keywords := (c.entries.drop c.firstKeyword.position).map (·.definition.name)

def ofText? (text : String) : Option SourceContent :=
  (SourceText.read? text).bind fun s =>
    (s.names.mapM fun row => Literal.unescape row.body).bind fun displayNames =>
      (s.codes.toList.mapM Payload.decode?).map fun payloads => ⟨displayNames, payloads, s.keywords⟩

/-- What a source says is what its compiled table says. -/
theorem ofText?_source {c : Compiled} (hnames : WellNamed c) :
    ofText? (Source.ownText c) = some (ofCompiled c) := by
  -- each row gives its name, and each code its payload
  have hnamesRead : (c.entries.map fun e => NameRow.mk (Literal.escape e.definition.displayName)
      (.ofNat e.id.position)).mapM (fun row => Literal.unescape row.body) =
      some (c.entries.map (·.definition.displayName)) :=
    Text.mapM_map_eq_some fun e _ => Literal.unescape_escape e.definition.displayName
  have hcodesRead : (c.entries.map fun e => e.definition.payload.encode).mapM Payload.decode? =
      some (c.entries.map (·.definition.payload)) :=
    Text.mapM_map_eq_some fun e _ => Payload.decode?_encode e.definition.payload
  rw [ofText?, SourceText.read?_ownText hnames, Option.bind_some]
  unfold SourceText.ofCompiled
  dsimp only
  rw [hnamesRead, Option.bind_some, Source.payloadCodes, String.toList_ofList, hcodesRead]
  rfl

end SourceContent

namespace Source

/-- Where the entries of two tables have their positions as numbers, the rows of the names differ
only if the names do. -/
theorem nameLines_congr {t u : Table} {c d : Compiled} (hc : c.Represents t) (hd : d.Represents u)
    (h : c.entries.map (·.definition.displayName) = d.entries.map (·.definition.displayName)) :
    nameLines c = nameLines d := by
  -- the rows are padded to the longest one, which all the names decide together
  have hlongest : longestBody c = longestBody d := by
    have hbodies : nameBodies c = nameBodies d := by
      have hmap := congrArg (List.map Literal.escape) h
      rw [List.map_map, List.map_map] at hmap
      exact hmap
    rw [longestBody, longestBody, hbodies]
  apply List.ext_getElem?
  intro i
  have hi := congrArg (fun names => names[i]?) h
  simp only [List.getElem?_map] at hi
  rw [nameLines, nameLines, List.getElem?_map, List.getElem?_map]
  cases hce : c.entries[i]? with
  | none =>
    rw [hce] at hi
    rw [Option.map_eq_none_iff.mp hi.symm, Option.map_none, Option.map_none]
  | some e =>
    rw [hce, Option.map_some] at hi
    obtain ⟨e', he', hname⟩ := Option.map_eq_some_iff.mp hi.symm
    rw [he', Option.map_some, Option.map_some, gap, gap, hlongest, hname, (hc.numbered i e hce).1,
      (hd.numbered i e' he').1]

/-- A source is written from what it says, so that tables that say the same have one source. -/
theorem ownText_congr {t u : Table} {c d : Compiled} (hc : c.Represents t) (hd : d.Represents u)
    (h : SourceContent.ofCompiled c = SourceContent.ofCompiled d) : ownText c = ownText d := by
  -- the text is put together from the rows of the names, the codes and the keywords
  have hnames := congrArg SourceContent.displayNames h
  have hpayloads := congrArg SourceContent.payloads h
  have hkeywords := congrArg SourceContent.keywords h
  have hcodes : payloadCodes c = payloadCodes d := by
    have hmap := congrArg (List.map Payload.encode) hpayloads
    simp only [SourceContent.ofCompiled, List.map_map] at hmap
    exact congrArg String.ofList hmap
  have hkeywordLines : keywordLines (c.entries.drop c.firstKeyword.position) =
      keywordLines (d.entries.drop d.firstKeyword.position) := by
    have hmap := congrArg (List.map (quotedLine "    \"" ",")) hkeywords
    simp only [SourceContent.ofCompiled, List.map_map] at hmap
    exact hmap
  have hcount : (c.entries.drop c.firstKeyword.position).length =
      (d.entries.drop d.firstKeyword.position).length := by
    have hlength := congrArg List.length hkeywords
    simp only [SourceContent.ofCompiled, List.length_map] at hlength
    exact hlength
  rw [← String.toList_inj, ownText, ownText, toList_wholeText, toList_wholeText, leadingSections,
    leadingSections, lastSection, lastSection, nameLines_congr hc hd hnames, hcodes, hkeywordLines,
    hcount]

/-- The text of a source, line by line, up to the end of the name table. -/
theorem lines_wholeText (c : Compiled) {keywords : List Entry}
    (hnames : ∀ e ∈ keywords, WellFormedName e.definition.name) : ∃ after,
    Text.lines (wholeText c keywords) =
      [[], bannerLine, [], "const char *global_token_name_table[] = \x7b".toList] ++ nameLines c ++
        "\x7d;".toList :: after := by
  have hprinted := isPrinted_sections c hnames
  simp only [List.forall_mem_append, List.forall_mem_singleton] at hprinted
  -- no line has a line break of its own, so that splitting gives them back
  have hbreaks : ∀ line ∈ Text.terminated [] (leadingSections c keywords) ++ lastSection keywords,
      '\n' ∉ line := by
    intro line hline
    rcases List.mem_append.mp hline with hline | hline
    · exact Text.newline_not_mem_terminated hprinted.1 line hline
    · exact (hprinted.2 line hline).2
  have hlines : Text.lines (wholeText c keywords) =
      Text.terminated [] (leadingSections c keywords) ++ lastSection keywords ++ [[]] := by
    rw [Text.lines, toList_wholeText, ← List.append_nil (Text.terminated '\n' _),
      Text.splitOn_terminated_append hbreaks]
    rfl
  rw [hlines]
  simp only [leadingSections, arrayLines, Text.terminated, List.flatMap_cons, List.append_assoc,
    List.cons_append, List.nil_append]
  exact ⟨_, rfl⟩

/-- What stands in the lines behind the declaration of the name table. -/
theorem getElem?_lines (c : Compiled) {keywords : List Entry}
    (hnames : ∀ e ∈ keywords, WellFormedName e.definition.name) : ∃ after, ∀ i,
    (Text.lines (wholeText c keywords))[4 + i]? = (nameLines c ++ "\x7d;".toList :: after)[i]? := by
  obtain ⟨after, hlines⟩ := lines_wholeText c hnames
  refine ⟨after, fun i => ?_⟩
  rw [hlines, List.append_assoc, List.getElem?_append_right (Nat.le_add_right 4 i)]
  change (nameLines c ++ _)[4 + i - 4]? = _
  rw [Nat.add_sub_cancel_left]

/-- The literal of a row ends where it was written to end, and no quote follows. -/
theorem literal?_nameRow {body : String} (h : IsBody body.toList) (gap n : Nat) : ∃ after,
    literal? "    \"" (NameRow.line gap ⟨body, .ofNat n⟩) = some (body.toList, after) ∧
      '"' ∉ after := by
  refine ⟨_, literal?_quotedLine h _, fun hmem => ?_⟩
  -- behind the literal come a comma, blanks, the comment sign and a number
  rcases List.mem_append.mp hmem with hc | hc
  · exact absurd hc (by decide)
  rcases List.mem_append.mp hc with hc | hc
  · exact absurd (List.eq_of_mem_replicate hc) (by decide)
  rcases List.mem_append.mp hc with hc | hc
  · exact absurd hc (by decide)
  · exact absurd (Numeral.isAlphanum_of_mem_ofNat hc) (by decide)

/-- The name table as it stands in a text: a row for each entry, with one literal and no quote
behind it, and the closing brace right after the last row. -/
structure RowsIntact (c : Compiled) (text : String) : Prop where
  rows : ∀ (i : Nat) (e : Entry), c.entries[i]? = some e → ∃ line after,
    (Text.lines text)[4 + i]? = some line ∧
    literal? "    \"" line = some ((Literal.escape e.definition.displayName).toList, after) ∧
    '"' ∉ after
  closed : (Text.lines text)[4 + c.size]? = some "\x7d;".toList

/-- Each row of the name table is one line, and its literal is closed where the escaped name ends.
-/
theorem rowsIntact_wholeText (c : Compiled) {keywords : List Entry}
    (hnames : ∀ e ∈ keywords, WellFormedName e.definition.name) :
    RowsIntact c (wholeText c keywords) := by
  obtain ⟨after, hlines⟩ := getElem?_lines c hnames
  have hlength : (nameLines c).length = c.size := List.length_map _
  constructor
  case rows =>
    intro i e he
    have hi : i < (nameLines c).length := by
      rw [hlength]
      exact (List.getElem?_eq_some_iff.mp he).1
    obtain ⟨rest, hliteral, hquote⟩ :=
      literal?_nameRow (Literal.isBody_escape e.definition.displayName) (gap c e) e.id.position
    refine ⟨_, rest, ?_, hliteral, hquote⟩
    -- the row of an entry is as far from the first row as the entry from the first entry
    rw [hlines, List.getElem?_append_left hi, nameLines, List.getElem?_map, he]
    rfl
  case closed =>
    rw [hlines, ← hlength, List.getElem?_append_right le_rfl, Nat.sub_self]
    rfl

end Source

/-- As many entries and as many keywords leave one place for the boundary. -/
theorem SourceContent.size_eq {t u : Table} {c d : Compiled} (hc : c.Represents t)
    (hd : d.Represents u) (h : ofCompiled c = ofCompiled d) :
    c.size = d.size ∧ c.firstKeyword = d.firstKeyword := by
  have hsize := congrArg (fun s => s.displayNames.length) h
  have hkeywords := congrArg (fun s => s.keywords.length) h
  simp only [ofCompiled, List.length_map, List.length_drop] at hsize hkeywords
  have hinside := hc.boundaryInside
  have hinside' := hd.boundaryInside
  unfold Compiled.BoundaryInside Compiled.size at hinside hinside'
  have hposition : c.firstKeyword.position = d.firstKeyword.position := by omega
  refine ⟨hsize, ?_⟩
  exact congrArg TokenId.mk (UInt32.toNat_inj.mp hposition)

/-- The source of a table that compiles is decoded to what the table says, and each row of its name
table is one line with one literal. So two such tables have one source exactly if they say the same:
the display names, the payloads and the keywords, and with them the count and the boundary. -/
theorem Source.text_eq_iff {t u : Table} {c d : Compiled} (hc : t.compile = .ok c)
    (hd : u.compile = .ok d) : ∃ source source', text? c = some source ∧ text? d = some source' ∧
      (source = source' ↔ SourceContent.ofCompiled c = SourceContent.ofCompiled d) ∧
      (source = source' → c.size = d.size ∧ c.firstKeyword = d.firstKeyword) ∧
      SourceContent.ofText? source = some (.ofCompiled c) ∧ RowsIntact c source := by
  obtain ⟨ha, rfl⟩ := (Table.compile_eq_ok_iff t c).mp hc
  obtain ⟨ha', rfl⟩ := (Table.compile_eq_ok_iff u d).mp hd
  have hrepr := Compiled.represents_ofTable ha
  have hrepr' := Compiled.represents_ofTable ha'
  have hnamed := wellNamed_of_represents hrepr ha.wellFormed
  have hread := SourceContent.ofText?_source hnamed
  have hread' := SourceContent.ofText?_source (wellNamed_of_represents hrepr' ha'.wellFormed)
  have hiff : ownText (Compiled.ofTable t) = ownText (Compiled.ofTable u) ↔
      SourceContent.ofCompiled (Compiled.ofTable t) =
        SourceContent.ofCompiled (Compiled.ofTable u) := by
    constructor
    · -- one text is decoded to one content
      intro htext
      rw [htext, hread'] at hread
      exact (Option.some.inj hread).symm
    · exact ownText_congr hrepr hrepr'
  refine ⟨_, _, text?_of_boundaryInside hrepr.boundaryInside,
    text?_of_boundaryInside hrepr'.boundaryInside, hiff, fun heq => ?_, hread,
    rowsIntact_wholeText _ hnamed.keywords⟩
  exact SourceContent.size_eq hrepr hrepr' (hiff.mp heq)

end Lexicon.Artifact

namespace Lexicon

/-- Display names that look like the end of a literal, of a row and of the whole table, and one that
ends with a backslash behind a control character. -/
def Table.disguised : Table where
  definitions := [⟨"none", .plain, .idOnly, some "\",\n\x7d;\n\n"⟩,
    ⟨"while", .keyword, .cString, some "\u0085\\"⟩, ⟨"address", .operator, .memory, some "\\205\""⟩]
  aliases := []

def Compiled.disguised : Compiled where
  entries := [⟨⟨0⟩, ⟨"none", .plain, .idOnly, some "\",\n\x7d;\n\n"⟩⟩,
    ⟨⟨1⟩, ⟨"address", .operator, .memory, some "\\205\""⟩⟩,
    ⟨⟨2⟩, ⟨"while", .keyword, .cString, some "\u0085\\"⟩⟩]
  aliases := []
  firstKeyword := ⟨2⟩

theorem Table.compile_disguised : Table.disguised.compile = .ok Compiled.disguised := by
  rw [compile_eq_ok_iff]
  exact ⟨⟨by decide, by decide, by decide, by decide⟩, by cbv⟩

open Artifact in
theorem Compiled.disguised_text : Table.disguised.compile = .ok Compiled.disguised ∧
    Table.mixed.compile = .ok Compiled.mixed ∧ ∃ source source',
      Source.text? Compiled.disguised = some source ∧
      Source.text? Compiled.mixed = some source' ∧ source ≠ source' ∧
      SourceContent.ofText? source = some (.ofCompiled Compiled.disguised) ∧
      Source.RowsIntact Compiled.disguised source := by
  obtain ⟨source, source', hsource, hsource', hiff, -, hread, hrows⟩ :=
    Source.text_eq_iff Table.compile_disguised Table.compile_mixed
  have hne : source ≠ source' := by
    intro htext
    have hpayloads := congrArg SourceContent.payloads (hiff.mp htext)
    exact absurd hpayloads (by decide)
  exact ⟨Table.compile_disguised, Table.compile_mixed, source, source', hsource, hsource', hne,
    hread, hrows⟩

end Lexicon
