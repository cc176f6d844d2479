import Lexicon.Artifact.Source
import Lexicon.Proofs.Artifact.HeaderText

namespace Lexicon.Artifact

open Text (Line Numeral)

/-- Splits a text at the quote that closes the literal in which it begins. The flag says that a
backslash is open. -/
def splitLiteral (escaped : Bool) : List Char → Option (List Char × List Char)
  | [] => none
  | c :: rest =>
    if escaped then (splitLiteral false rest).map (Prod.map (c :: ·) id)
    else if c = '"' then some ([], rest)
    else (splitLiteral (c == '\\') rest).map (Prod.map (c :: ·) id)

/-- A text that can stand in a literal as a whole: it leaves no backslash open and has no quote of
its own. -/
def IsBody (body : List Char) : Prop :=
  ∀ rest, splitLiteral false (body ++ rest) =
    (splitLiteral false rest).map (Prod.map (body ++ ·) id)

namespace IsBody

theorem nil : IsBody [] := by
  intro rest
  cases h : splitLiteral false rest <;> exact h

theorem append {front back : List Char} (hfront : IsBody front) (hback : IsBody back) :
    IsBody (front ++ back) := by
  intro rest
  rw [List.append_assoc, hfront, hback, Option.map_map]
  congr 1
  funext ⟨body, after⟩
  exact congrArg (·, after) (List.append_assoc front back body).symm

theorem singleton {c : Char} (hquote : c ≠ '"') (hbackslash : c ≠ '\\') : IsBody [c] := by
  intro rest
  change splitLiteral false (c :: rest) = _
  rw [splitLiteral, if_neg Bool.false_ne_true, if_neg hquote, beq_eq_false_iff_ne.mpr hbackslash]
  rfl

theorem escaped (c : Char) : IsBody ['\\', c] := by
  intro rest
  change splitLiteral false ('\\' :: c :: rest) = _
  rw [splitLiteral, if_neg Bool.false_ne_true, if_neg (by decide), beq_self_eq_true, splitLiteral,
    if_pos rfl, Option.map_map]
  rfl

theorem flatMap {α : Type} {f : α → List Char} {xs : List α} (h : ∀ x ∈ xs, IsBody (f x)) :
    IsBody (xs.flatMap f) := by
  induction xs with
  | nil => exact nil
  | cons x xs ih =>
    obtain ⟨hx, hxs⟩ := List.forall_mem_cons.mp h
    exact hx.append (ih hxs)

theorem of_forall {cs : List Char} (h : ∀ c ∈ cs, c ≠ '"' ∧ c ≠ '\\') : IsBody cs := by
  rw [← List.flatMap_singleton' cs]
  exact flatMap fun c hc => singleton (h c hc).1 (h c hc).2

end IsBody

theorem splitLiteral_of_isBody {body : List Char} (h : IsBody body) (rest : List Char) :
    splitLiteral false (body ++ '"' :: rest) = some (body, rest) := by
  rw [h, splitLiteral, if_neg Bool.false_ne_true, if_pos rfl, Option.map_some]
  exact congrArg (fun b => some (b, rest)) (List.append_nil body)

namespace Literal

theorem isDigit_of_mem_octal {n : Nat} {c : Char}
    (hc : c ∈ Text.padStart 3 '0' (Nat.toDigits 8 n)) :
    c.isDigit = true := by
  rcases List.mem_append.mp hc with hc | hc
  · rw [List.eq_of_mem_replicate hc]
    rfl
  · exact Nat.isDigit_of_mem_toDigits (by decide) (by decide) hc

/-- An escaped character is whole, and a line break is never left as it is. -/
theorem escapeChar_spec (c : Char) : IsBody (escapeChar c) ∧ '\n' ∉ escapeChar c := by
  unfold escapeChar
  split_ifs with hquote hbackslash hbreak htab hreturn hcontrol
  · exact ⟨IsBody.escaped _, by decide⟩
  · exact ⟨IsBody.escaped _, by decide⟩
  · exact ⟨IsBody.escaped _, by decide⟩
  · exact ⟨IsBody.escaped _, by decide⟩
  · exact ⟨IsBody.escaped _, by decide⟩
  · have hdigit : ∀ d ∈ Text.padStart 3 '0' (Nat.toDigits 8 c.toNat), d.isDigit = true :=
      fun d => isDigit_of_mem_octal
    have hne : Text.padStart 3 '0' (Nat.toDigits 8 c.toNat) ≠ [] :=
      List.append_ne_nil_of_right_ne_nil _ Nat.toDigits_ne_nil
    obtain ⟨d, ds, hds⟩ := List.exists_cons_of_ne_nil hne
    rw [hds] at hdigit ⊢
    -- the first digit belongs to the escape, the others stand for themselves
    refine ⟨(IsBody.escaped d).append (IsBody.of_forall fun e he => ?_), fun hmem => ?_⟩
    · have h := hdigit e (List.mem_cons_of_mem d he)
      constructor <;> rintro rfl <;> exact absurd h (by decide)
    · rcases List.mem_cons.mp hmem with h | h
      · exact absurd h (by decide)
      · exact absurd (hdigit _ h) (by decide)
  · rw [beq_iff_eq] at hquote hbackslash hbreak
    exact ⟨IsBody.singleton hquote hbackslash,
      fun hmem => hbreak (List.eq_of_mem_singleton hmem).symm⟩

theorem isBody_escape (s : String) : IsBody (escape s).toList := by
  rw [escape, String.toList_ofList]
  exact IsBody.flatMap fun c _ => (escapeChar_spec c).1

theorem newline_not_mem_escape (s : String) : '\n' ∉ (escape s).toList := by
  rw [escape, String.toList_ofList]
  intro hmem
  obtain ⟨c, -, hc⟩ := List.mem_flatMap.mp hmem
  exact (escapeChar_spec c).2 hc

end Literal

theorem isBody_of_wellFormed {name : String} (h : WellFormedName name) : IsBody name.toList :=
  IsBody.of_forall fun c hc => ⟨(h.2 c hc).ne (by decide), (h.2 c hc).ne (by decide)⟩

theorem newline_not_mem_of_wellFormed {name : String} (h : WellFormedName name) :
    '\n' ∉ name.toList :=
  fun hmem => (h.2 _ hmem).ne (by decide) rfl

theorem isBody_payloadCodes (c : Compiled) : IsBody (Source.payloadCodes c).toList := by
  rw [Source.payloadCodes, String.toList_ofList]
  apply IsBody.of_forall
  intro code hcode
  obtain ⟨e, -, rfl⟩ := List.mem_map.mp hcode
  cases e.definition.payload <;> decide

theorem newline_not_mem_payloadCodes (c : Compiled) : '\n' ∉ (Source.payloadCodes c).toList := by
  rw [Source.payloadCodes, String.toList_ofList]
  intro hmem
  obtain ⟨e, -, he⟩ := List.mem_map.mp hmem
  revert he
  cases e.definition.payload <;> decide

def literal? (opening : String) (line : Line) : Option (List Char × List Char) :=
  (opening.toList.isPrefixOf? line).bind (splitLiteral false)

def quoted? (opening closing : String) (line : Line) : Option String :=
  (literal? opening line).bind fun (body, rest) =>
    if rest = closing.toList then some (String.ofList body) else none

/-- A row of the name table: the escaped display name, and the number in the comment. -/
structure NameRow where
  body : String
  number : Numeral
  deriving DecidableEq, Repr

def NameRow.read? (line : Line) : Option NameRow :=
  (literal? "    \"" line).bind fun (body, rest) =>
    (",".toList.isPrefixOf? rest).bind fun rest =>
      ("// ".toList.isPrefixOf? (rest.dropWhile (· == ' '))).bind fun rest =>
        (Numeral.read? rest).map fun number => ⟨String.ofList body, number⟩

/-- Reads an array: its declaration, one row in each line, and the closing brace. -/
def array? {α : Type} (declaration : String) (row? : Line → Option α) : List Line → Option (List α)
  | [] => none
  | first :: rest =>
    if first = (declaration ++ " = \x7b").toList ∧ rest.getLast? = some "\x7d;".toList then
      rest.dropLast.mapM row?
    else none

def counted? (opening : String) (line : Line) : Option Nat :=
  (opening.toList.isPrefixOf? line).bind fun rest =>
    if rest.getLast? = some ';' then Text.number? 10 rest.dropLast else none

structure SourceText where
  names : List NameRow
  codes : String
  keywords : List String
  keywordCount : Nat
  deriving DecidableEq, Repr

namespace SourceText

def read? (text : String) : Option SourceText :=
  match Text.sections text with
  | [] :: [_] :: names :: [codes] :: keywords :: [count] :: _ =>
    (array? "const char *global_token_name_table[]" NameRow.read? names).bind fun names =>
    (quoted? "const char global_token_extra_format_table[] = \"" ";" codes).bind fun codes =>
    (array? "const char *global_token_keywords_list[]" (quoted? "    \"" ",") keywords).bind
      fun keywords =>
    (counted? "unsigned long long global_token_keywords_list_length = " count).map fun count =>
      ⟨names, codes, keywords, count⟩
  | _ => none

def ofCompiled (c : Compiled) (keywords : List Entry) : SourceText where
  names := c.entries.map fun e => ⟨Literal.escape e.definition.displayName, .ofNat e.id.position⟩
  codes := Source.payloadCodes c
  keywords := keywords.map (·.definition.name)
  keywordCount := keywords.length

end SourceText

def quotedLine (opening closing body : String) : Line :=
  opening.toList ++ (body.toList ++ '"' :: closing.toList)

def NameRow.line (gap : Nat) (r : NameRow) : Line :=
  quotedLine "    \"" "," r.body ++
    (List.replicate gap ' ' ++ ("// ".toList ++ r.number.spelling.toList))

def arrayLines (declaration : String) (rows : List Line) : List Line :=
  (declaration ++ " = \x7b").toList :: (rows ++ ["\x7d;".toList])

def countedLine (opening : String) (n : Nat) : Line :=
  opening.toList ++ ((toString n).toList ++ [';'])

section
variable {opening closing body : String} (h : IsBody body.toList)
include h

theorem literal?_quotedLine (rest : List Char) :
    literal? opening (quotedLine opening closing body ++ rest) =
      some (body.toList, closing.toList ++ rest) := by
  rw [literal?, quotedLine, List.append_assoc, List.append_assoc, Text.isPrefixOf?_append,
    Option.bind_some, List.cons_append, splitLiteral_of_isBody h]

theorem quoted?_quotedLine :
    quoted? opening closing (quotedLine opening closing body) = some body := by
  have hread : literal? opening (quotedLine opening closing body ++ []) =
      some (body.toList, closing.toList ++ []) :=
    literal?_quotedLine h []
  rw [List.append_nil, List.append_nil] at hread
  rw [quoted?, hread, Option.bind_some]
  change (if closing.toList = closing.toList then some (String.ofList body.toList) else none) =
    some body
  rw [if_pos rfl, String.ofList_toList]

/-- A row is read back, however far its comment has been moved. -/
theorem NameRow.read?_line (gap n : Nat) :
    read? (line gap ⟨body, .ofNat n⟩) = some ⟨body, .ofNat n⟩ := by
  -- however wide the gap is, the comment begins behind it
  have hblanks : ∀ c ∈ List.replicate gap ' ', (c == ' ') = true :=
    fun c hc => beq_iff_eq.mpr (List.eq_of_mem_replicate hc)
  have hstop : ("// ".toList ++ (Numeral.ofNat n).spelling.toList).dropWhile (· == ' ') =
      "// ".toList ++ (Numeral.ofNat n).spelling.toList := rfl
  rw [read?, line, literal?_quotedLine h, Option.bind_some]
  change ((",".toList.isPrefixOf? (",".toList ++ _)).bind _) = _
  rw [Text.isPrefixOf?_append, Option.bind_some, List.dropWhile_append_of_pos hblanks, hstop,
    Text.isPrefixOf?_append, Option.bind_some, Numeral.read?_ofNat, Option.map_some,
    String.ofList_toList]

end

theorem isPrinted_quotedLine {opening closing body : String} (hbody : '\n' ∉ body.toList)
    (hopening : '\n' ∉ opening.toList) (hclosing : '\n' ∉ closing.toList) :
    Text.IsPrinted (quotedLine opening closing body) := by
  refine ⟨List.append_ne_nil_of_right_ne_nil _
    (List.append_ne_nil_of_right_ne_nil _ (List.cons_ne_nil _ _)), ?_⟩
  simp only [quotedLine, List.mem_append, List.mem_cons, not_or]
  exact ⟨hopening, hbody, by decide, hclosing⟩

theorem isPrinted_arrayLines {declaration : String} {rows : List Line}
    (hdeclaration : Text.IsPrinted (declaration ++ " = \x7b").toList)
    (hrows : ∀ l ∈ rows, Text.IsPrinted l) :
    ∀ l ∈ arrayLines declaration rows, Text.IsPrinted l := by
  intro l hl
  rcases List.mem_cons.mp hl with rfl | hl
  · exact hdeclaration
  rcases List.mem_append.mp hl with hl | hl
  · exact hrows l hl
  · rw [List.eq_of_mem_singleton hl]
    decide

theorem isPrinted_countedLine {opening : String} (hopening : '\n' ∉ opening.toList) (n : Nat) :
    Text.IsPrinted (countedLine opening n) := by
  have hdigits : '\n' ∉ (toString n).toList := by
    intro hmem
    rw [Nat.toString_eq_ofList_toDigits, String.toList_ofList] at hmem
    exact absurd (Nat.isDigit_of_mem_toDigits (by decide) (by decide) hmem) (by decide)
  refine ⟨List.append_ne_nil_of_right_ne_nil _
    (List.append_ne_nil_of_right_ne_nil _ (List.cons_ne_nil _ _)), ?_⟩
  simp only [countedLine, List.mem_append, List.mem_singleton, not_or]
  exact ⟨hopening, hdigits, by decide⟩

theorem array?_arrayLines {α β : Type} {declaration : String} {row? : Line → Option β}
    {write : α → Line}
    {value : α → β} {xs : List α} (h : ∀ x ∈ xs, row? (write x) = some (value x)) :
    array? declaration row? (arrayLines declaration (xs.map write)) = some (xs.map value) := by
  have hlast : (xs.map write ++ ["\x7d;".toList]).getLast? = some "\x7d;".toList :=
    List.getLast?_concat
  have hrows : (xs.map write).mapM row? = some (xs.map value) := Text.mapM_map_eq_some h
  rw [arrayLines, array?, hlast, if_pos ⟨rfl, rfl⟩, List.dropLast_concat, hrows]

theorem counted?_countedLine (opening : String) (n : Nat) :
    counted? opening (countedLine opening n) = some n := by
  have hlast : ((toString n).toList ++ [';']).getLast? = some ';' := List.getLast?_concat
  rw [counted?, countedLine, Text.isPrefixOf?_append, Option.bind_some, hlast, List.dropLast_concat,
    Text.number?_toString]
  exact if_pos rfl

namespace Source

def longestBody (c : Compiled) : Nat := longest (nameBodies c)

def gap (c : Compiled) (e : Entry) : Nat :=
  longestBody c - (Text.utf8 (Literal.escape e.definition.displayName)).length + 1

def nameLines (c : Compiled) : List Line :=
  c.entries.map fun e =>
    NameRow.line (gap c e) ⟨Literal.escape e.definition.displayName, .ofNat e.id.position⟩

def keywordLines (keywords : List Entry) : List Line :=
  keywords.map fun e => quotedLine "    \"" "," e.definition.name

def leadingSections (c : Compiled) (keywords : List Entry) : List (List Line) :=
  [[], [bannerLine], arrayLines "const char *global_token_name_table[]" (nameLines c),
    [quotedLine "const char global_token_extra_format_table[] = \"" ";" (payloadCodes c)],
    arrayLines "const char *global_token_keywords_list[]" (keywordLines keywords)]

def lastSection (keywords : List Entry) : List Line :=
  [countedLine "unsigned long long global_token_keywords_list_length = " keywords.length]

theorem toList_nameRow (blanks : Nat) (body : String) (id : TokenId) :
    (nameRow blanks body id).toList =
      NameRow.line blanks ⟨body, .ofNat id.position⟩ ++ ['\n'] := by
  simp only [nameRow, NameRow.line, quotedLine, String.toList_append, String.toList_ofList,
    List.append_assoc]
  rfl

def namePieces (c : Compiled) : List String :=
  "const char *global_token_name_table[] = \x7b\n" ::
    c.entries.map (fun e => nameRow (gap c e) (Literal.escape e.definition.displayName) e.id)
      ++ ["\x7d;\n", "\n"]

def payloadPieces (c : Compiled) : List String :=
  ["const char global_token_extra_format_table[] = \"" ++ payloadCodes c ++ "\";\n", "\n"]

def keywordPieces (keywords : List Entry) : List String :=
  "const char *global_token_keywords_list[] = \x7b\n" ::
    keywords.map (fun e => "    \"" ++ e.definition.name ++ "\",\n")
      ++ ["\x7d;\n", "\n",
        "unsigned long long global_token_keywords_list_length = " ++ toString keywords.length ++
          ";\n"]

theorem toList_namePieces (c : Compiled) : (namePieces c).flatMap (·.toList) =
    Text.terminated '\n'
      (arrayLines "const char *global_token_name_table[]" (nameLines c) ++ [[]]) := by
  apply Text.flatMap_toList_of_lines
  have hrows : (c.entries.map fun e =>
      nameRow (gap c e) (Literal.escape e.definition.displayName) e.id).map (·.toList) =
      (nameLines c).map (· ++ ['\n']) := by
    rw [nameLines, List.map_map, List.map_map]
    exact List.map_congr_left fun e _ => toList_nameRow ..
  rw [namePieces, List.map_append, List.map_cons, hrows, arrayLines]
  simp only [List.map_append, List.map_cons, List.append_assoc, List.cons_append]
  rfl

theorem toList_payloadPieces (c : Compiled) :
    (payloadPieces c).flatMap (·.toList) = Text.terminated '\n'
      [quotedLine "const char global_token_extra_format_table[] = \"" ";" (payloadCodes c), []] := by
  apply Text.flatMap_toList_of_lines
  simp only [payloadPieces, quotedLine, List.map_cons, List.map_nil, String.toList_append,
    List.append_assoc]
  rfl

theorem toList_keywordPieces (keywords : List Entry) :
    (keywordPieces keywords).flatMap (·.toList) = Text.terminated '\n'
      (arrayLines "const char *global_token_keywords_list[]" (keywordLines keywords) ++
        [] :: lastSection keywords) := by
  apply Text.flatMap_toList_of_lines
  have hrows : (keywords.map fun e => "    \"" ++ e.definition.name ++ "\",\n").map (·.toList) =
      (keywordLines keywords).map (· ++ ['\n']) := by
    rw [keywordLines, List.map_map, List.map_map]
    apply List.map_congr_left
    intro e _
    simp only [Function.comp_apply, quotedLine, String.toList_append, List.append_assoc]
    rfl
  rw [keywordPieces, List.map_append, List.map_cons, hrows, arrayLines, lastSection, countedLine]
  simp only [List.map_append, List.map_cons, List.append_assoc, List.cons_append,
    String.toList_append]
  rfl

def wholeText (c : Compiled) (keywords : List Entry) : String :=
  String.join (banner :: namePieces c ++ payloadPieces c ++ keywordPieces keywords)

def ownText (c : Compiled) : String := wholeText c (c.entries.drop c.firstKeyword.position)

theorem toList_wholeText (c : Compiled) (keywords : List Entry) : (wholeText c keywords).toList =
    Text.terminated '\n'
      (Text.terminated [] (leadingSections c keywords) ++ lastSection keywords) := by
  rw [wholeText, String.toList_join, List.flatMap_append, List.cons_append,
    List.flatMap_cons, List.flatMap_append, toList_namePieces, toList_payloadPieces,
    toList_keywordPieces, toList_banner, ← Text.terminated_append, ← Text.terminated_append,
    ← Text.terminated_append]
  simp only [leadingSections, Text.terminated, List.flatMap_cons, List.flatMap_nil,
    List.append_assoc, List.cons_append, List.nil_append]

theorem isPrinted_nameLines (c : Compiled) : ∀ l ∈ nameLines c, Text.IsPrinted l := by
  intro l hl
  obtain ⟨e, -, rfl⟩ := List.mem_map.mp hl
  have hquoted : Text.IsPrinted
      (quotedLine "    \"" "," (Literal.escape e.definition.displayName)) :=
    isPrinted_quotedLine (Literal.newline_not_mem_escape e.definition.displayName) (by decide)
      (by decide)
  refine ⟨List.append_ne_nil_of_left_ne_nil hquoted.1 _, fun hmem => ?_⟩
  rcases List.mem_append.mp hmem with hc | hc
  · exact hquoted.2 hc
  rcases List.mem_append.mp hc with hc | hc
  · exact absurd (List.eq_of_mem_replicate hc) (by decide)
  rcases List.mem_append.mp hc with hc | hc
  · exact absurd hc (by decide)
  · exact absurd (Numeral.isAlphanum_of_mem_ofNat hc) (by decide)

/-- No line of the source is empty or broken, so that the empty lines are those between sections. -/
theorem isPrinted_sections (c : Compiled) {keywords : List Entry}
    (hnames : ∀ e ∈ keywords, WellFormedName e.definition.name) :
    ∀ part ∈ leadingSections c keywords ++ [lastSection keywords], ∀ l ∈ part,
      Text.IsPrinted l := by
  have hkeywords : ∀ l ∈ keywordLines keywords, Text.IsPrinted l := by
    intro l hl
    obtain ⟨e, he, rfl⟩ := List.mem_map.mp hl
    exact isPrinted_quotedLine (newline_not_mem_of_wellFormed (hnames e he)) (by decide) (by decide)
  simp only [leadingSections, lastSection, List.cons_append, List.nil_append, List.mem_cons,
    List.not_mem_nil, forall_eq_or_imp, false_implies, implies_true, and_true, true_and]
  refine ⟨by decide, isPrinted_arrayLines (by decide) (isPrinted_nameLines c),
    isPrinted_quotedLine (newline_not_mem_payloadCodes c) (by decide) (by decide),
    isPrinted_arrayLines (by decide) hkeywords, isPrinted_countedLine (by decide) _⟩

end Source

/-- The written source is read back whole. -/
theorem SourceText.read?_source (c : Compiled) {keywords : List Entry}
    (hnames : ∀ e ∈ keywords, WellFormedName e.definition.name) :
    read? (Source.wholeText c keywords) = some (ofCompiled c keywords) := by
  rw [read?, Text.sections_eq_of_last (Source.toList_wholeText c keywords)
    (Source.isPrinted_sections c hnames)]
  simp only [Source.leadingSections, Source.lastSection, List.cons_append, List.nil_append]
  rw [Source.nameLines,
    array?_arrayLines fun e _ => NameRow.read?_line (Literal.isBody_escape _) _ _,
    quoted?_quotedLine (isBody_payloadCodes c), Source.keywordLines,
    array?_arrayLines fun e he => quoted?_quotedLine (isBody_of_wellFormed (hnames e he)),
    counted?_countedLine]
  rfl

theorem WellNamed.keywords {c : Compiled} (h : WellNamed c) :
    ∀ e ∈ c.entries.drop c.firstKeyword.position, WellFormedName e.definition.name :=
  fun e he => h.entries e (List.mem_of_mem_drop he)

theorem SourceText.read?_ownText {c : Compiled} (h : WellNamed c) : read? (Source.ownText c) =
    some (ofCompiled c (c.entries.drop c.firstKeyword.position)) :=
  read?_source c h.keywords

end Lexicon.Artifact
