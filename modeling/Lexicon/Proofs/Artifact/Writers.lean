import Lexicon.Artifact.Pair
import Lexicon.Proofs.Artifact.Printing
import Lexicon.Proofs.Artifact.SourceText

/-! What the writers of the two artifacts print, for every compiled table. The header halts at the
first constant if the longest name of an entry moves the column out of reach. The source fills its
rows up to the longest name without such a limit, and halts at its keywords exactly if there are
none to speak of. -/
namespace Lexicon

/-- The name leaves room for the stem of its constant in the widest column. -/
def Definition.NameFits (d : Definition) : Prop := (Text.utf8 d.name).length ≤ 65529

def Compiled.NamesFit (c : Compiled) : Prop := ∀ e ∈ c.entries, e.definition.NameFits

instance (d : Definition) : Decidable d.NameFits := inferInstanceAs (Decidable (_ ≤ _))

instance (c : Compiled) : Decidable c.NamesFit :=
  inferInstanceAs (Decidable (∀ e ∈ c.entries, e.definition.NameFits))

namespace Artifact

theorem foldl_max_le_iff {ns : List Nat} {acc n : Nat} :
    ns.foldl max acc ≤ n ↔ acc ≤ n ∧ ∀ m ∈ ns, m ≤ n := by
  induction ns generalizing acc with
  | nil => simp
  | cons m ns ih => rw [List.foldl_cons, ih, Nat.max_le, List.forall_mem_cons, and_assoc]

theorem HeaderLine.prints_write {l : HeaderLine} (h : l.Fits) : Prints l.write l.text (some ()) := by
  rw [write, if_pos h]
  exact .emit l.text

theorem HeaderLine.prints_write_halt {l : HeaderLine} (h : ¬l.Fits) : Prints l.write "" none := by
  rw [write, if_neg h]
  exact .halt

namespace Header

/-- The column is that of the longest name, so that it is within reach if no name is too long. -/
theorem column_le_iff (c : Compiled) : column c ≤ widestColumn ↔ c.NamesFit := by
  have hstem : constantStem.length = 6 := rfl
  have hroom (n : Nat) : n + 6 ≤ widestColumn ↔ n ≤ 65529 := by
    unfold widestColumn
    omega
  -- the stem of a constant is added to the name
  rw [column, hstem, hroom, foldl_max_le_iff, List.forall_mem_map]
  exact and_iff_right (Nat.zero_le _)

/-- The lines in front of those of the entries. They do not depend on the table. -/
def frontLines (stamp : UInt64) : List HeaderLine :=
  [.verbatim ("#ifndef " ++ guard), .verbatim ("#define " ++ guard), .verbatim "",
    stampLine stamp, .verbatim ""]

/-- What stands in front of the first constant of an entry. -/
def frontText (stamp : UInt64) : String := banner ++ String.join ((frontLines stamp).map (·.text))

theorem fits_frontLines (stamp : UInt64) : ∀ l ∈ frontLines stamp, l.Fits := by
  intro l hl
  simp only [frontLines, stampLine, List.mem_cons, List.not_mem_nil, or_false] at hl
  rcases hl with rfl | rfl | rfl | rfl | rfl
  · trivial
  · trivial
  · trivial
  · exact Nat.zero_le _
  · trivial

/-- Only the constants of entries and aliases are filled up to a column that a table can move. -/
theorem fits_leadingLines {c : Compiled} (h : c.NamesFit) (stamp : UInt64) :
    ∀ l ∈ leadingLines c stamp, l.Fits := by
  have hunfilled (name value : String) : (HeaderLine.constant name 0 value).Fits := Nat.zero_le _
  have hverbatim (text : String) : (HeaderLine.verbatim text).Fits := trivial
  have hpayload : ∀ l ∈ payloadLines, l.Fits := by decide
  have hcolumn := (column_le_iff c).mpr h
  have hentries : ∀ l ∈ entryLines c, l.Fits := List.forall_mem_map.mpr fun _ _ => hcolumn
  have haliases : ∀ l ∈ aliasLines c, l.Fits := List.forall_mem_map.mpr fun _ _ => hcolumn
  simp only [leadingLines, stampLine, List.forall_mem_append, List.forall_mem_cons, hunfilled,
    hverbatim, true_and, and_true, iff_true_intro hpayload, List.not_mem_nil, IsEmpty.forall_iff,
    implies_true]
  exact ⟨hentries, haliases⟩

theorem prints_write {c : Compiled} (h : c.NamesFit) (stamp : UInt64) :
    Prints (write c stamp) (wholeText c stamp) (some ()) := by
  have hleading := Prints.forM fun l hl => HeaderLine.prints_write (fits_leadingLines h stamp l hl)
  have hclosing : Prints (closingLines.forM HeaderLine.write)
      (String.join (closingLines.map (·.text))) (some ()) :=
    .forM fun l hl => HeaderLine.prints_write (by fin_cases hl <;> trivial)
  have hwrite := (Prints.emit banner).seq (hleading.seq ((Prints.emit legacyBlock).seq hclosing))
  rw [wholeText, List.cons_append, String.join_cons, String.join_append, String.join_cons]
  exact hwrite

/-- A column out of reach halts the header at the first entry, whose constant is filled up to it. -/
theorem prints_write_halt {c : Compiled} (h : ¬c.NamesFit) (stamp : UInt64) :
    Prints (write c stamp) (frontText stamp) none := by
  have hcolumn := mt (column_le_iff c).mp h
  -- without entries there would be no name that is too long
  obtain ⟨e, rest, hentries⟩ : ∃ e rest, c.entries = e :: rest := by
    cases hnames : c.entries with
    | nil =>
      refine absurd (fun e he => ?_) h
      exact absurd (hnames ▸ he) List.not_mem_nil
    | cons e rest => exact ⟨e, rest, rfl⟩
  obtain ⟨back, hleading⟩ : ∃ back, leadingLines c stamp =
      frontLines stamp ++ .constant e.definition.constant (column c) e.id.text :: back := by
    simp only [leadingLines, entryLines, hentries, List.map_cons, List.append_assoc]
    exact ⟨_, rfl⟩
  -- what comes before the first entry is not filled up to the column
  have hfront : ∀ l ∈ frontLines stamp, Prints l.write l.text (some ()) :=
    fun l hl => HeaderLine.prints_write (fits_frontLines stamp l hl)
  have hlines := Prints.forM_halt back hfront (HeaderLine.prints_write_halt (l :=
    .constant e.definition.constant (column c) e.id.text) hcolumn)
  rw [← hleading] at hlines
  exact (Prints.emit banner).seq hlines.bind_halt

/-- The constants of entries stop the header wherever it is written to, unless the sink is full
before they come. -/
theorem fst_write_eq_halted_iff (c : Compiled) (stamp : UInt64) (s : Sink) :
    (write c stamp s).1 = .error .halted ↔ ¬c.NamesFit ∧ s.Takes (frontText stamp) := by
  by_cases h : c.NamesFit
  · rw [(prints_write h stamp).fst_eq_halted_iff]
    exact iff_of_false (fun hnone => nomatch hnone.1) fun hboth => hboth.1 h
  · rw [(prints_write_halt h stamp).fst_eq_halted_iff, and_iff_right rfl, and_iff_right h]

theorem exists_wholeText_eq (c : Compiled) (stamp : UInt64) :
    ∃ rest, wholeText c stamp = frontText stamp ++ rest := by
  have hleading : leadingLines c stamp = frontLines stamp ++ (leadingLines c stamp).drop 5 := rfl
  rw [wholeText, hleading, List.map_append, List.cons_append, String.join_cons, List.append_assoc,
    String.join_append, ← String.append_assoc]
  exact ⟨_, rfl⟩

/-- As long as the constants are not reached, a sink cannot tell that they will halt. -/
theorem write_limited (c : Compiled) (stamp : UInt64) {room : Nat}
    (h : c.NamesFit ∨ room < (Text.utf8 (frontText stamp)).length) :
    (write c stamp (.limited room)).2.bytes = (Text.utf8 (wholeText c stamp)).take room ∧
      ((write c stamp (.limited room)).1 = .error (.failed .full) ↔
        room < (Text.utf8 (wholeText c stamp)).length) := by
  by_cases hfit : c.NamesFit
  · have hwrite := prints_write hfit stamp
    exact ⟨hwrite.bytes_limited room, hwrite.fst_limited_eq_full_iff room⟩
  · have hwrite := prints_write_halt hfit stamp
    have hroom := h.resolve_left hfit
    obtain ⟨rest, hwhole⟩ := exists_wholeText_eq c stamp
    rw [hwrite.bytes_limited, hwrite.fst_limited_eq_full_iff, hwhole, Text.utf8_append,
      List.take_append_of_le_length (Nat.le_of_lt hroom), List.length_append]
    exact ⟨rfl, iff_of_true hroom (Nat.lt_of_lt_of_le hroom (Nat.le_add_right _ _))⟩

theorem text?_of_namesFit {c : Compiled} (h : c.NamesFit) (stamp : UInt64) :
    text? c stamp = some (wholeText c stamp) := (prints_write h stamp).text?

theorem text?_of_not_namesFit {c : Compiled} (h : ¬c.NamesFit) (stamp : UInt64) :
    text? c stamp = none := (prints_write_halt h stamp).text?_halt

theorem text?_eq_some_iff {c : Compiled} {stamp : UInt64} {text : String} :
    text? c stamp = some text ↔ c.NamesFit ∧ text = wholeText c stamp := by
  by_cases h : c.NamesFit
  · rw [text?_of_namesFit h, and_iff_right h, Option.some.injEq]
    exact eq_comm
  · rw [text?_of_not_namesFit h]
    exact iff_of_false nofun fun hboth => h hboth.1

end Header

namespace Source

theorem zip_nameBodies (c : Compiled) : c.entries.zip (nameBodies c) =
    c.entries.map fun e => (e, Literal.escape e.definition.displayName) :=
  List.map_prod_left_eq_zip.symm

theorem length_le_longestBody {c : Compiled} {body : String} (h : body ∈ nameBodies c) :
    (Text.utf8 body).length ≤ longestBody c := by
  have hall := (foldl_max_le_iff.mp (Nat.le_refl (longestBody c))).2
  exact hall _ (List.mem_map_of_mem h)

/-- No row is longer than the longest, whatever the entries are. -/
theorem nameRow?_eq_some {c : Compiled} {body : String} (h : body ∈ nameBodies c) (id : TokenId) :
    nameRow? (longestBody c) body id =
      some (nameRow (longestBody c - (Text.utf8 body).length + 1) body id) := by
  rw [nameRow?, Bounded.minus?_of_le (length_le_longestBody h), Option.map_some]

/-- The rows of the name table can always be written. -/
theorem prints_writeNames (c : Compiled) :
    Prints (writeNames c) (String.join (namePieces c)) (some ()) := by
  have htexts : (c.entries.zip (nameBodies c)).map (fun row =>
      nameRow (longestBody c - (Text.utf8 row.2).length + 1) row.2 row.1.id) =
      c.entries.map fun e => nameRow (gap c e) (Literal.escape e.definition.displayName) e.id := by
    rw [zip_nameBodies, List.map_map]
    rfl
  have hrows : Prints ((c.entries.zip (nameBodies c)).forM fun row => do
      emit (← orHalt (nameRow? (longestBody c) row.2 row.1.id)))
      (String.join (c.entries.map fun e =>
        nameRow (gap c e) (Literal.escape e.definition.displayName) e.id)) (some ()) := by
    -- a gap is a difference that exists, since the longest name is one of the names
    rw [← htexts]
    apply Prints.forM
    intro row hrow
    exact .orHalt_bind (nameRow?_eq_some (List.of_mem_zip hrow).2 row.1.id) (.emit _)
  have hwrite := (Prints.emit "const char *global_token_name_table[] = \x7b\n").seq
    (hrows.seq ((Prints.emit "\x7d;\n").seq (Prints.emit "\n")))
  rw [namePieces, List.cons_append, String.join_cons, String.join_append]
  exact hwrite

theorem prints_writePayloads (c : Compiled) :
    Prints (writePayloads c) (String.join (payloadPieces c)) (some ()) :=
  (Prints.emit _).seq (Prints.emit "\n")

/-- Where there are keywords, both their list and its length are written. -/
theorem prints_writeKeywords {c : Compiled} {keywords : List Entry}
    (h : c.keywords? = some keywords) :
    Prints (writeKeywords c) (String.join (keywordPieces keywords)) (some ()) := by
  have hrows : Prints (keywords.forM fun e => emit ("    \"" ++ e.definition.name ++ "\",\n"))
      (String.join (keywords.map fun e => "    \"" ++ e.definition.name ++ "\",\n")) (some ()) :=
    .forM fun _ _ => .emit _
  have hlength : Prints
      (do
        let keywords ← orHalt c.keywords?
        emit ("unsigned long long global_token_keywords_list_length = " ++
          toString keywords.length ++ ";\n"))
      ("unsigned long long global_token_keywords_list_length = " ++ toString keywords.length ++
        ";\n") (some ()) :=
    .orHalt_bind h (.emit _)
  have hclosing := (Prints.emit "\x7d;\n").seq ((Prints.emit "\n").seq hlength)
  rw [keywordPieces, List.cons_append, String.join_cons, String.join_append]
  unfold writeKeywords
  exact (Prints.emit _).seq (.orHalt_bind h (hrows.seq hclosing))

/-- Without keywords the list ends behind its declaration. -/
theorem prints_writeKeywords_halt {c : Compiled} (h : c.keywords? = none) :
    Prints (writeKeywords c) "const char *global_token_keywords_list[] = \x7b\n" none := by
  have hkeywords : Prints (orHalt c.keywords?) "" none := h ▸ Prints.orHalt none
  exact (Prints.emit "const char *global_token_keywords_list[] = \x7b\n").seq hkeywords.bind_halt

theorem prints_write {c : Compiled} (h : c.BoundaryInside) :
    Prints (write c) (ownText c) (some ()) := by
  have hkeywords := prints_writeKeywords (Compiled.keywords?_of_boundaryInside h)
  have hwrite := (Prints.emit banner).seq
    ((prints_writeNames c).seq ((prints_writePayloads c).seq hkeywords))
  rw [ownText, wholeText, List.append_assoc, List.cons_append, String.join_cons,
    String.join_append, String.join_append]
  exact hwrite

theorem prints_write_halt {c : Compiled} (h : ¬c.BoundaryInside) :
    ∃ text, Prints (write c) text none := by
  have hnone := c.keywords?_eq_none_iff.mpr (Nat.lt_of_not_le h)
  exact ⟨_, (Prints.emit banner).seq
    ((prints_writeNames c).seq ((prints_writePayloads c).seq (prints_writeKeywords_halt hnone)))⟩

theorem text?_of_boundaryInside {c : Compiled} (h : c.BoundaryInside) :
    text? c = some (ownText c) := (prints_write h).text?

theorem text?_of_not_boundaryInside {c : Compiled} (h : ¬c.BoundaryInside) : text? c = none := by
  obtain ⟨text, hprints⟩ := prints_write_halt h
  exact hprints.text?_halt

theorem text?_eq_some_iff {c : Compiled} {text : String} :
    text? c = some text ↔ c.BoundaryInside ∧ text = ownText c := by
  by_cases h : c.BoundaryInside
  · rw [text?_of_boundaryInside h, and_iff_right h, Option.some.injEq]
    exact eq_comm
  · rw [text?_of_not_boundaryInside h]
    exact iff_of_false nofun fun hboth => h hboth.1

theorem text?_eq_none_iff (c : Compiled) : text? c = none ↔ c.size < c.firstKeyword.position := by
  rw [← Nat.not_le]
  constructor
  · intro hnone hinside
    exact nomatch hnone.symm.trans (text?_of_boundaryInside hinside)
  · exact text?_of_not_boundaryInside

end Source

end Artifact

/-- There are artifacts exactly if no name is too long for the header and the keywords begin inside
the table, and then they are the two whole texts. -/
theorem Artifacts.ofCompiled?_eq_some_iff {c : Compiled} {stamp : UInt64} {artifacts : Artifacts} :
    ofCompiled? c stamp = some artifacts ↔ (c.NamesFit ∧ c.BoundaryInside) ∧
      artifacts = ⟨Artifact.Header.wholeText c stamp, Artifact.Source.ownText c⟩ := by
  have hboth : ofCompiled? c stamp = some artifacts ↔
      ∃ header, Artifact.Header.text? c stamp = some header ∧
        ∃ source, Artifact.Source.text? c = some source ∧ artifacts = ⟨header, source⟩ := by
    simp only [ofCompiled?, Option.bind_eq_bind, Option.bind_eq_some_iff, Option.pure_def,
      Option.some.injEq, eq_comm (b := artifacts)]
  rw [hboth]
  simp only [Artifact.Header.text?_eq_some_iff, Artifact.Source.text?_eq_some_iff]
  constructor
  · rintro ⟨_, ⟨hfit, rfl⟩, _, ⟨hinside, rfl⟩, rfl⟩
    exact ⟨⟨hfit, hinside⟩, rfl⟩
  · rintro ⟨⟨hfit, hinside⟩, rfl⟩
    exact ⟨_, ⟨hfit, rfl⟩, _, ⟨hinside, rfl⟩, rfl⟩

end Lexicon
