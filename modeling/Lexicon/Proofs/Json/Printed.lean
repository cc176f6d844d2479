import Mathlib.Data.List.Forall2
import Lexicon.Json.Decode
import Lexicon.Json.Printer
import Lexicon.Proofs.Json.Lexeme

/-! Printed values are read back. A value is printed as lexemes with blanks between them, the text is
cut into these lexemes again, and they are put together to the same value. -/
namespace Lexicon.Json

/-- A value without fractions whose integers have 64 bits and whose brackets nest at most `depth`
deep. -/
inductive Printable : (depth : Nat) → Value → Prop
  | null {depth : Nat} : Printable depth .null
  | boolean {depth : Nat} (b : Bool) : Printable depth (.boolean b)
  | integer {depth : Nat} {n : Int} : -0x8000000000000000 ≤ n → n < 0x10000000000000000 →
      Printable depth (.integer n)
  | text {depth : Nat} (s : String) : Printable depth (.text s)
  | array {depth : Nat} {items : List Value} : (∀ v ∈ items, Printable depth v) →
      Printable (depth + 1) (.array items)
  | object {depth : Nat} {members : List (String × Value)} :
      (∀ m ∈ members, Printable depth m.2) → Printable (depth + 1) (.object members)

namespace Value

mutual

def lexemes : Value → List Lexeme
  | array items => .openBracket :: itemLexemes [] items ++ [.closeBracket]
  | object members => .openBrace :: memberLexemes [] members ++ [.closeBrace]
  | null => [.leaf .null]
  | boolean b => [.leaf (.boolean b)]
  | integer n => [.leaf (.integer n)]
  | real x => [.leaf (.real x)]
  | text s => [.leaf (.text s)]

/-- The lexemes of items; `lead` comes before the first of them. -/
def itemLexemes (lead : List Lexeme) : List Value → List Lexeme
  | [] => []
  | v :: rest => lead ++ v.lexemes ++ itemLexemes [.comma] rest

/-- The lexemes of members; `lead` comes before the first of them. -/
def memberLexemes (lead : List Lexeme) : List (String × Value) → List Lexeme
  | [] => []
  | (key, v) :: rest =>
    lead ++ [.leaf (.text key), .colon] ++ v.lexemes ++ memberLexemes [.comma] rest

end

end Value

/-! ### Cutting -/

/-- Characters in front of others are cut into these lexemes, wherever they stand. -/
def CutsInto (cs rest : List Char) (lexemes : List Lexeme) : Prop :=
  ∀ m, ∃ ts m', ts.map (·.lexeme) = lexemes ∧ tokensFrom m (cs ++ rest) = ts ++ tokensFrom m' rest

theorem CutsInto.append {cs cs' rest : List Char} {ls ls' : List Lexeme}
    (h : CutsInto cs (cs' ++ rest) ls) (h' : CutsInto cs' rest ls') :
    CutsInto (cs ++ cs') rest (ls ++ ls') := by
  intro m
  obtain ⟨ts, m', hts, hcut⟩ := h m
  obtain ⟨ts', m'', hts', hcut'⟩ := h' m'
  refine ⟨ts ++ ts', m'', ?_, ?_⟩
  · rw [List.map_append, hts, hts']
  · rw [List.append_assoc, hcut, hcut', List.append_assoc]

theorem CutsInto.nil (rest : List Char) : CutsInto [] rest [] := fun m => ⟨[], m, rfl, rfl⟩

theorem cutsInto_blanks {cs : List Char} (h : ∀ c ∈ cs, isBlank c = true) (rest : List Char) :
    CutsInto cs rest [] := by
  induction cs with
  | nil => exact .nil rest
  | cons c cs ih =>
    obtain ⟨hc, hcs⟩ := List.forall_mem_cons.mp h
    intro m
    obtain ⟨ts, m', hts, hcut⟩ := ih hcs (m.pastChar c)
    refine ⟨ts, m', hts, ?_⟩
    rw [List.cons_append, tokensFrom, if_pos hc, hcut]

theorem cutsInto_lexeme {c : Char} {cs rest : List Char} {lexeme : Lexeme}
    (hblank : isBlank c = false) (hbroken : ∀ shape fault, lexeme ≠ .broken shape fault)
    (hscan : ∀ m, Lexeme.scan m c (cs ++ rest) = (lexeme, cs.length)) :
    CutsInto (c :: cs) rest [lexeme] := by
  intro m
  let stop := m.past (c :: (cs ++ rest).take cs.length)
  refine ⟨[⟨lexeme, m, m.further 1 (c :: (cs ++ rest)), stop⟩], stop, rfl, ?_⟩
  rw [List.cons_append, tokensFrom, hblank, if_neg Bool.false_ne_true, hscan]
  dsimp only
  split
  · exact absurd rfl (hbroken _ _)
  · rw [List.drop_left]
    rfl

theorem cutsInto_text (s : String) (rest : List Char) :
    CutsInto (Literal.write s).toList rest [.leaf (.text s)] := by
  rw [Literal.write, String.toList_ofList, List.cons_append]
  refine cutsInto_lexeme (by decide) (fun _ _ h => nomatch h) fun m => ?_
  have hread : (Literal.read 1 (s.toList.flatMap Literal.writeChar ++ '"' :: rest)) = _ :=
    Literal.read_write s.toList rest 1
  rw [List.append_assoc, List.singleton_append]
  change Lexeme.ofScan m _ _ ((Literal.read 1 _).map _) = _
  rw [hread]
  change (Lexeme.leaf (.text (String.ofList s.toList)), _) = _
  rw [String.ofList_toList, List.length_append, List.length_singleton]
  rfl

theorem cutsInto_number {c : Char} {cs rest : List Char} {v : Value}
    (hc : c.isDigit = true ∨ c = '-')
    (hscan : Number.scan c (cs ++ rest) = .ok (v, (c :: cs).length)) :
    CutsInto (c :: cs) rest [.leaf v] := by
  have hne (d : Char) (hd : d.isDigit = false ∧ d ≠ '-') : (c == d) = false := by
    rw [beq_eq_false_iff_ne]
    rintro rfl
    rcases hc with hc | hc
    · exact absurd (hc.symm.trans hd.1) (by decide)
    · exact hd.2 hc
  have hstart : (c == '-' || c.isDigit) = true := by
    rcases hc with hc | rfl
    · rw [hc, Bool.or_true]
    · rfl
  -- a digit or a sign is neither blank nor a mark, so that it is read as a number
  refine cutsInto_lexeme ?_ (fun _ _ h => nomatch h) fun m => ?_
  · rw [isBlank, hne ' ' (by decide), hne '\n' (by decide), hne '\t' (by decide),
      hne '\r' (by decide)]
    rfl
  · simp only [Lexeme.scan, hne '\x7b' (by decide), hne '\x7d' (by decide), hne '[' (by decide),
      hne ']' (by decide), hne ',' (by decide), hne ':' (by decide), hne '"' (by decide), hstart,
      hscan, if_true, Bool.false_eq_true, if_false, Lexeme.ofScan, List.length_cons,
      Nat.add_sub_cancel]

/-- A printed integer is one lexeme, with a sign or without. -/
theorem cutsInto_integer {n : Int} (hleast : -0x8000000000000000 ≤ n)
    (hmost : n < 0x10000000000000000) {rest : List Char} (hrest : Delimited rest) :
    CutsInto (toString n).toList rest [.leaf (.integer n)] := by
  cases n with
  | ofNat k =>
    have hk : k < UInt64.size := Int.ofNat_lt.mp hmost
    have htext : (toString (Int.ofNat k)).toList = Nat.toDigits 10 k := by
      change (toString k).toList = _
      rw [Nat.toString_eq_ofList_toDigits, String.toList_ofList]
    obtain ⟨c, cs, hcs⟩ := List.exists_cons_of_ne_nil (Nat.toDigits_ne_nil (n := k) (b := 10))
    have hc : c.isDigit = true := Nat.isDigit_of_mem_toDigits (b := 10) (n := k) (by decide)
      (by decide) (by rw [hcs]; exact List.mem_cons_self)
    -- the digits of a natural number do not begin with a sign
    have hminus : (c == '-') = false := by
      rw [beq_eq_false_iff_ne]
      rintro rfl
      exact absurd hc (by decide)
    rw [htext, hcs]
    refine cutsInto_number (.inl hc) ?_
    rw [Number.scan, hminus, if_neg Bool.false_ne_true, ← List.cons_append, ← hcs,
      Number.scanUnsigned_toDigits _ _ hk hrest, Number.scanRest_natural _ _ hrest, Nat.zero_add]
    rfl
  | negSucc k =>
    have hle : k + 1 ≤ 0x8000000000000000 := by omega
    have hk : k + 1 < UInt64.size := Nat.lt_of_le_of_lt hle (by decide)
    have htext : (toString (Int.negSucc k)).toList = '-' :: Nat.toDigits 10 (k + 1) := by
      change ("-" ++ toString (k + 1)).toList = _
      rw [String.toList_append, Nat.toString_eq_ofList_toDigits, String.toList_ofList,
        String.toList_ofList]
      rfl
    rw [htext]
    refine cutsInto_number (.inr rfl) ?_
    rw [Number.scan, if_pos (by decide), Number.scanUnsigned_toDigits _ _ hk hrest,
      Number.scanRest_negated (Nat.succ_pos k) hle _ hrest, List.length_cons, Nat.add_comm 1]
    rfl

/-! ### Cutting a printed value -/

theorem Delimited.append {cs : List Char} (h : Delimited cs) (hne : cs ≠ []) (rest : List Char) :
    Delimited (cs ++ rest) := by
  obtain ⟨c, cs, rfl⟩ := List.exists_cons_of_ne_nil hne
  exact h

def characters (pieces : List String) : List Char := pieces.flatMap (·.toList)

theorem characters_append (front back : List String) :
    characters (front ++ back) = characters front ++ characters back :=
  List.flatMap_append

theorem characters_cons (piece : String) (rest : List String) :
    characters (piece :: rest) = piece.toList ++ characters rest :=
  List.flatMap_cons

theorem cutsInto_indent (depth : Nat) (rest : List Char) :
    CutsInto (indent depth).toList rest [] := by
  refine cutsInto_blanks (fun c hc => ?_) rest
  rw [indent, String.toList_ofList] at hc
  rw [List.eq_of_mem_replicate hc]
  rfl

structure IsLead (lead : String) (lexemes : List Lexeme) : Prop where
  cut : ∀ rest, CutsInto lead.toList rest lexemes
  delimited : Delimited lead.toList
  ne_nil : lead.toList ≠ []

theorem isLead_lineBreak : IsLead "\n" [] where
  cut := cutsInto_blanks (List.forall_mem_singleton.mpr rfl)
  delimited := delimited_cons (by decide) []
  ne_nil := by decide

theorem isLead_comma : IsLead ",\n" [.comma] where
  cut rest := by
    have hcomma : CutsInto [','] (['\n'] ++ rest) [.comma] :=
      cutsInto_lexeme (by decide) (fun _ _ h => nomatch h) fun _ => rfl
    exact hcomma.append (isLead_lineBreak.cut rest)
  delimited := delimited_cons (by decide) ['\n']
  ne_nil := by decide

def lines (depth : Nat) (lead : String) : List (List String) → List String
  | [] => []
  | body :: rest => lead :: indent depth :: body ++ lines depth ",\n" rest

def joined (lead : List Lexeme) : List (List Lexeme) → List Lexeme
  | [] => []
  | ls :: rest => lead ++ ls ++ joined [.comma] rest

theorem delimited_lines {lead : String} {ls : List Lexeme} (hlead : IsLead lead ls) (depth : Nat)
    (bodies : List (List String)) {rest : List Char} (hrest : Delimited rest) :
    Delimited (characters (lines depth lead bodies) ++ rest) := by
  cases bodies with
  | nil => exact hrest
  | cons body bodies =>
    rw [lines, List.cons_append, characters_cons, List.append_assoc]
    exact hlead.delimited.append hlead.ne_nil _

theorem cutsInto_lines {bodies : List (List String)} {lexemes : List (List Lexeme)}
    (h : List.Forall₂ (fun body ls => ∀ rest, Delimited rest → CutsInto (characters body) rest ls)
      bodies lexemes)
    {lead : String} {ls : List Lexeme} (hlead : IsLead lead ls) (depth : Nat) {rest : List Char}
    (hrest : Delimited rest) :
    CutsInto (characters (lines depth lead bodies)) rest (joined ls lexemes) := by
  induction h generalizing lead ls with
  | nil => exact .nil rest
  | @cons body ls' bodies lexemes hbody _ ih =>
    rw [lines, joined, List.cons_append, List.cons_append, characters_cons, characters_cons,
      characters_append, List.append_assoc]
    have hnext := delimited_lines isLead_comma depth bodies hrest
    exact (hlead.cut _).append ((cutsInto_indent depth _).append
      ((hbody _ hnext).append (ih isLead_comma)))

/-- Brackets around lines. -/
theorem cutsInto_brackets {opening closing : String} {left right : Lexeme}
    {bodies : List (List String)} {lexemes : List (List Lexeme)}
    (hopening : ∀ rest, CutsInto opening.toList rest [left])
    (hclosing : ∀ rest, CutsInto closing.toList rest [right])
    (h : List.Forall₂ (fun body ls => ∀ rest, Delimited rest → CutsInto (characters body) rest ls)
      bodies lexemes) (level : Nat) (rest : List Char) :
    CutsInto (characters (opening :: lines (level + 1) "\n" bodies ++ ["\n", indent level, closing]))
      rest (left :: joined [] lexemes ++ [right]) := by
  have hlast : CutsInto (characters ["\n", indent level, closing]) rest [right] := by
    rw [characters_cons, characters_cons, characters, List.flatMap_singleton]
    exact (isLead_lineBreak.cut _).append ((cutsInto_indent level _).append (hclosing rest))
  have hdelimited : Delimited (characters ["\n", indent level, closing] ++ rest) :=
    isLead_lineBreak.delimited.append isLead_lineBreak.ne_nil _
  rw [List.cons_append, characters_cons, characters_append]
  exact (hopening _).append ((cutsInto_lines h isLead_lineBreak _ hdelimited).append hlast)

namespace Value

theorem itemPieces_eq (depth : Nat) (lead : String) (items : List Value) :
    itemPieces depth lead items = lines depth lead (items.map (pieces depth)) := by
  induction items generalizing lead with
  | nil => rfl
  | cons v items ih => rw [itemPieces, ih, List.map_cons, lines]

theorem memberPieces_eq (depth : Nat) (lead : String) (members : List (String × Value)) :
    memberPieces depth lead members = lines depth lead
      (members.map fun m => Literal.write m.1 :: ": " :: m.2.pieces depth) := by
  induction members generalizing lead with
  | nil => rfl
  | cons m members ih => rw [memberPieces, ih, List.map_cons, lines]

theorem itemLexemes_eq (lead : List Lexeme) (items : List Value) :
    itemLexemes lead items = joined lead (items.map lexemes) := by
  induction items generalizing lead with
  | nil => rfl
  | cons v items ih => rw [itemLexemes, ih, List.map_cons, joined]

theorem memberLexemes_eq (lead : List Lexeme) (members : List (String × Value)) :
    memberLexemes lead members =
      joined lead (members.map fun m => [.leaf (.text m.1), .colon] ++ m.2.lexemes) := by
  induction members generalizing lead with
  | nil => rfl
  | cons m members ih =>
    rw [memberLexemes, ih, List.map_cons, joined, List.append_assoc lead]

/-- A printed value is cut into its lexemes, however far it is indented. -/
theorem cutsInto_pieces {depth : Nat} {v : Value} (h : Printable depth v) :
    ∀ (level : Nat) (rest : List Char), Delimited rest →
      CutsInto (characters (v.pieces level)) rest v.lexemes := by
  -- along the value; brackets carry the statement from their members to themselves
  induction h with
  | null =>
    intro level rest hrest
    exact cutsInto_lexeme (by decide) (fun _ _ h => nomatch h) fun _ => rfl
  | boolean b =>
    intro level rest hrest
    cases b with
    | true => exact cutsInto_lexeme (by decide) (fun _ _ h => nomatch h) fun _ => rfl
    | false => exact cutsInto_lexeme (by decide) (fun _ _ h => nomatch h) fun _ => rfl
  | integer hleast hmost =>
    intro level rest hrest
    rw [pieces, lexemes, characters, List.flatMap_singleton]
    exact cutsInto_integer hleast hmost hrest
  | text s =>
    intro level rest hrest
    rw [pieces, lexemes, characters, List.flatMap_singleton]
    exact cutsInto_text s rest
  | @array depth items _ ih =>
    intro level rest hrest
    have hopening (rest : List Char) : CutsInto "[".toList rest [.openBracket] :=
      show CutsInto ['['] rest _ from
        cutsInto_lexeme (by decide) (fun _ _ h => nomatch h) fun _ => rfl
    have hclosing (rest : List Char) : CutsInto "]".toList rest [.closeBracket] :=
      show CutsInto [']'] rest _ from
        cutsInto_lexeme (by decide) (fun _ _ h => nomatch h) fun _ => rfl
    rw [pieces, lexemes, itemLexemes_eq, itemPieces_eq]
    split
    · rename_i hempty
      rw [List.isEmpty_iff.mp hempty]
      exact (hopening _).append (hclosing rest)
    · refine cutsInto_brackets hopening hclosing ?_ level rest
      rw [List.forall₂_map_left_iff, List.forall₂_map_right_iff, List.forall₂_same]
      exact fun v hv rest hrest => ih v hv (level + 1) rest hrest
  | @object depth members _ ih =>
    intro level rest hrest
    have hopening (rest : List Char) : CutsInto "\x7b".toList rest [.openBrace] :=
      show CutsInto ['\x7b'] rest _ from
        cutsInto_lexeme (by decide) (fun _ _ h => nomatch h) fun _ => rfl
    have hclosing (rest : List Char) : CutsInto "\x7d".toList rest [.closeBrace] :=
      show CutsInto ['\x7d'] rest _ from
        cutsInto_lexeme (by decide) (fun _ _ h => nomatch h) fun _ => rfl
    rw [pieces, lexemes, memberLexemes_eq, memberPieces_eq]
    split
    · rename_i hempty
      rw [List.isEmpty_iff.mp hempty]
      exact (hopening _).append (hclosing rest)
    · refine cutsInto_brackets hopening hclosing ?_ level rest
      rw [List.forall₂_map_left_iff, List.forall₂_map_right_iff, List.forall₂_same]
      intro m hm rest hrest
      have hcolon (rest : List Char) : CutsInto ": ".toList rest [.colon] := by
        have h : CutsInto [':'] ([' '] ++ rest) [.colon] :=
          cutsInto_lexeme (by decide) (fun _ _ h => nomatch h) fun _ => rfl
        exact h.append (cutsInto_blanks (List.forall_mem_singleton.mpr rfl) rest)
      rw [characters_cons, characters_cons]
      exact (cutsInto_text m.1 _).append ((hcolon _).append (ih m hm (level + 1) rest hrest))

end Value

end Lexicon.Json
