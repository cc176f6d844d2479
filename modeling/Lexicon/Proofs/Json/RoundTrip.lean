import Lexicon.Proofs.Json.Printed

namespace Lexicon.Json

namespace Document

def behind (finish : Mark) (value : Reading) (stack : List Frame) (rest : List Token) : Document :=
  match stack with
  | [] => ⟨value, trailingFault rest⟩
  | frame :: outer =>
    ofTokens finish .separator (frame.push value (frame.ending finish rest) :: outer) rest

section
variable (finish : Mark) {expected : Expectation} (stack : List Frame) (rest : List Token)
  (start next stop : Mark)

theorem ofTokens_leaf (he : expected = .value ∨ expected = .firstItem) (v : Value) :
    ofTokens finish expected stack (⟨.leaf v, start, next, stop⟩ :: rest) =
      behind finish (.leaf v ⟨.leaf v, start, next, stop⟩) stack rest := by
  rcases he with rfl | rfl <;> cases stack <;> rfl

theorem ofTokens_openBracket (he : expected = .value ∨ expected = .firstItem)
    (hdepth : stack.length < 127) :
    ofTokens finish expected stack (⟨.openBracket, start, next, stop⟩ :: rest) =
      ofTokens finish .firstItem
        (.array ⟨.openBracket, start, next, stop⟩ (.ofList finish rest) [] :: stack) rest := by
  rcases he with rfl | rfl <;> exact if_neg (Nat.not_le.mpr hdepth)

theorem ofTokens_openBrace (he : expected = .value ∨ expected = .firstItem)
    (hdepth : stack.length < 127) :
    ofTokens finish expected stack (⟨.openBrace, start, next, stop⟩ :: rest) =
      ofTokens finish .firstKey
        (.object ⟨.openBrace, start, next, stop⟩ (.ofObject finish rest) rest.head? [] none :: stack)
        rest := by
  rcases he with rfl | rfl <;> exact if_neg (Nat.not_le.mpr hdepth)

variable (token : Token) (opening : Ending) (items : List (Reading × Ending))

theorem ofTokens_closeBracket (he : expected = .firstItem ∨ expected = .separator) :
    ofTokens finish expected (.array token opening items :: stack)
        (⟨.closeBracket, start, next, stop⟩ :: rest) =
      behind finish (.array token opening items.reverse none) stack rest := by
  rcases he with rfl | rfl <;> cases stack <;> rfl

theorem ofTokens_comma :
    ofTokens finish .separator (.array token opening items :: stack)
        (⟨.comma, start, next, stop⟩ :: rest) =
      ofTokens finish .value (.array token opening items :: stack) rest := rfl

variable (first : Option Token) (members : List Member)

theorem ofTokens_closeBrace (he : expected = .firstKey ∨ expected = .separator) :
    ofTokens finish expected (.object token opening first members none :: stack)
        (⟨.closeBrace, start, next, stop⟩ :: rest) =
      behind finish (.object token opening first members.reverse none) stack rest := by
  rcases he with rfl | rfl <;> cases stack <;> rfl

theorem ofTokens_objectComma :
    ofTokens finish .separator (.object token opening first members none :: stack)
        (⟨.comma, start, next, stop⟩ :: rest) =
      ofTokens finish .nextKey (.object token opening first members none :: stack) rest := rfl

theorem ofTokens_key (he : expected = .firstKey ∨ expected = .nextKey) (key : String)
    (start' next' stop' : Mark) :
    ofTokens finish expected (.object token opening first members none :: stack)
        (⟨.leaf (.text key), start, next, stop⟩ :: ⟨.colon, start', next', stop'⟩ :: rest) =
      ofTokens finish .value (.object token opening first members
        (some (key, .ofObject finish (⟨.colon, start', next', stop'⟩ :: rest))) :: stack) rest := by
  rcases he with rfl | rfl <;> rfl

end

theorem itemValues_cons {item : Reading × Ending} {items : List (Reading × Ending)} {v : Value}
    {vs : List Value} (h : Reading.value item.1 = .ok v) (hs : Reading.itemValues items = .ok vs) :
    Reading.itemValues (item :: items) = .ok (v :: vs) := by
  rw [Reading.itemValues, h, hs]
  rfl

theorem memberValues_cons {key : String} {e : Ending} {item : Reading × Ending}
    {members : List Member} {v : Value} {vs : List (String × Value)}
    (h : Reading.value item.1 = .ok v) (hs : Reading.memberValues members = .ok vs) :
    Reading.memberValues (((key, e), item) :: members) = .ok ((key, v) :: vs) := by
  rw [Reading.memberValues, h, hs]
  rfl

/-! ### Putting lexemes together -/

/-- The lexemes of a value are put together to the value, wherever so many further brackets may be
opened. -/
def Assembles (depth : Nat) (v : Value) : Prop :=
  ∀ ts : List Token, ts.map (·.lexeme) = v.lexemes →
    ∀ (finish : Mark) (expected : Expectation) (stack : List Frame) (rest : List Token),
      expected = .value ∨ expected = .firstItem → stack.length + depth ≤ 127 →
        ∃ r, Reading.value r = .ok v ∧
          ofTokens finish expected stack (ts ++ rest) = behind finish r stack rest

theorem assembles_leaf (depth : Nat) {v : Value} (h : v.lexemes = [.leaf v]) :
    Assembles depth v := by
  intro ts hts finish expected stack rest he _
  rw [h, List.map_eq_singleton_iff] at hts
  obtain ⟨⟨lexeme, start, next, stop⟩, rfl, rfl⟩ := hts
  exact ⟨_, rfl, ofTokens_leaf finish stack rest start next stop he v⟩

section
variable (finish : Mark) (stack : List Frame) (rest : List Token) (token : Token) (opening : Ending)

theorem assembles_item {depth : Nat} {v : Value} (h : Assembles depth v) {ts : List Token}
    (hts : ts.map (·.lexeme) = v.lexemes) {expected : Expectation}
    (he : expected = .value ∨ expected = .firstItem) (hdepth : stack.length + (depth + 1) ≤ 127)
    (done : List (Reading × Ending)) : ∃ item : Reading × Ending, Reading.value item.1 = .ok v ∧
      ofTokens finish expected (.array token opening done :: stack) (ts ++ rest) =
        ofTokens finish .separator (.array token opening (item :: done) :: stack) rest := by
  obtain ⟨r, hr, hread⟩ := h ts hts finish expected (.array token opening done :: stack) rest he
    (by rw [List.length_cons]; omega)
  exact ⟨(r, .ofList finish rest), hr, hread⟩

/-- The items behind the first one, with the bracket that closes the list. -/
theorem assembles_items {depth : Nat} {items : List Value} (h : ∀ v ∈ items, Assembles depth v)
    {ts : List Token}
    (hts : ts.map (·.lexeme) = joined [.comma] (items.map Value.lexemes) ++ [.closeBracket])
    (hdepth : stack.length + (depth + 1) ≤ 127) (done : List (Reading × Ending)) :
    ∃ further, Reading.itemValues further = .ok items ∧
      ofTokens finish .separator (.array token opening done :: stack) (ts ++ rest) =
        behind finish (.array token opening (done.reverse ++ further) none) stack rest := by
  induction items generalizing ts done with
  | nil =>
    -- nothing is left but the bracket
    rw [List.map_nil, joined, List.nil_append, List.map_eq_singleton_iff] at hts
    obtain ⟨⟨lexeme, start, next, stop⟩, rfl, rfl⟩ := hts
    refine ⟨[], rfl, ?_⟩
    rw [List.append_nil]
    exact ofTokens_closeBracket finish stack rest start next stop token opening done (.inr rfl)
  | cons v items ih =>
    obtain ⟨hv, hitems⟩ := List.forall_mem_cons.mp h
    rw [List.map_cons, joined, List.append_assoc, List.append_assoc, List.singleton_append,
      List.map_eq_cons_iff] at hts
    obtain ⟨⟨lexeme, start, next, stop⟩, ts, rfl, rfl, hts⟩ := hts
    -- behind the comma stand the tokens of one item, then those of the others
    obtain ⟨tsv, ts, rfl, htsv, hts⟩ := List.map_eq_append_iff.mp hts
    obtain ⟨item, hitem, hfirst⟩ := assembles_item finish stack (ts ++ rest) token opening hv htsv
      (.inl rfl) hdepth done
    obtain ⟨further, hfurther, hread⟩ := ih hitems hts (item :: done)
    refine ⟨item :: further, itemValues_cons hitem hfurther, ?_⟩
    rw [List.cons_append, ofTokens_comma, List.append_assoc, hfirst, hread, List.reverse_cons,
      List.append_assoc, List.singleton_append]

/-- The lexemes of a list are put together item by item. -/
theorem assembles_array {depth : Nat} {items : List Value} (h : ∀ v ∈ items, Assembles depth v) :
    Assembles (depth + 1) (.array items) := by
  intro ts hts finish expected stack rest he hdepth
  rw [Value.lexemes, Value.itemLexemes_eq, List.cons_append, List.map_eq_cons_iff] at hts
  obtain ⟨⟨lexeme, start, next, stop⟩, ts, rfl, rfl, hts⟩ := hts
  rw [List.cons_append, ofTokens_openBracket _ _ _ _ _ _ he (by omega)]
  cases items with
  | nil =>
    rw [List.map_nil, joined, List.nil_append, List.map_eq_singleton_iff] at hts
    obtain ⟨⟨lexeme, start, next, stop⟩, rfl, rfl⟩ := hts
    exact ⟨_, rfl, ofTokens_closeBracket finish stack rest start next stop _ _ [] (.inl rfl)⟩
  | cons v items =>
    obtain ⟨hv, hitems⟩ := List.forall_mem_cons.mp h
    rw [List.map_cons, joined, List.append_assoc, List.nil_append] at hts
    obtain ⟨tsv, ts, rfl, htsv, hts⟩ := List.map_eq_append_iff.mp hts
    obtain ⟨item, hitem, hfirst⟩ := assembles_item finish stack (ts ++ rest) _ _ hv htsv (.inr rfl)
      hdepth []
    obtain ⟨further, hfurther, hread⟩ := assembles_items finish stack rest _ _ hitems hts hdepth [item]
    rw [List.append_assoc]
    refine ⟨_, ?_, hfirst.trans hread⟩
    rw [Reading.value, List.reverse_singleton, List.singleton_append,
      itemValues_cons hitem hfurther]
    rfl

variable (first : Option Token)

theorem assembles_member {depth : Nat} {key : String} {v : Value} (h : Assembles depth v)
    {ts : List Token} (hts : ts.map (·.lexeme) = [.leaf (.text key), .colon] ++ v.lexemes)
    {expected : Expectation} (he : expected = .firstKey ∨ expected = .nextKey)
    (hdepth : stack.length + (depth + 1) ≤ 127) (done : List Member) :
    ∃ (e : Ending) (item : Reading × Ending), Reading.value item.1 = .ok v ∧
      ofTokens finish expected (.object token opening first done none :: stack) (ts ++ rest) =
        ofTokens finish .separator
          (.object token opening first (((key, e), item) :: done) none :: stack) rest := by
  rw [List.cons_append, List.singleton_append, List.map_eq_cons_iff] at hts
  obtain ⟨⟨lexeme, start, next, stop⟩, ts, rfl, rfl, hts⟩ := hts
  rw [List.map_eq_cons_iff] at hts
  obtain ⟨⟨lexeme, start', next', stop'⟩, ts, rfl, rfl, hts⟩ := hts
  let behindKey : Ending := .ofObject finish (⟨.colon, start', next', stop'⟩ :: (ts ++ rest))
  obtain ⟨r, hr, hread⟩ := h ts hts finish .value
    (.object token opening first done (some (key, behindKey)) :: stack) rest (.inl rfl)
    (by rw [List.length_cons]; omega)
  refine ⟨behindKey, (r, .ofObject finish rest), hr, ?_⟩
  rw [List.cons_append, List.cons_append, ofTokens_key _ _ _ _ _ _ _ _ _ _ he, hread]
  rfl

/-- The members behind the first one, with the bracket that closes the object. -/
theorem assembles_members {depth : Nat} {members : List (String × Value)}
    (h : ∀ m ∈ members, Assembles depth m.2) {ts : List Token}
    (hts : ts.map (·.lexeme) = joined [.comma]
      (members.map fun m => [.leaf (.text m.1), .colon] ++ m.2.lexemes) ++ [.closeBrace])
    (hdepth : stack.length + (depth + 1) ≤ 127) (done : List Member) :
    ∃ further, Reading.memberValues further = .ok members ∧
      ofTokens finish .separator (.object token opening first done none :: stack) (ts ++ rest) =
        behind finish (.object token opening first (done.reverse ++ further) none) stack rest := by
  induction members generalizing ts done with
  | nil =>
    rw [List.map_nil, joined, List.nil_append, List.map_eq_singleton_iff] at hts
    obtain ⟨⟨lexeme, start, next, stop⟩, rfl, rfl⟩ := hts
    refine ⟨[], rfl, ?_⟩
    rw [List.append_nil]
    exact ofTokens_closeBrace finish stack rest start next stop token opening first done (.inr rfl)
  | cons m members ih =>
    obtain ⟨hm, hmembers⟩ := List.forall_mem_cons.mp h
    rw [List.map_cons, joined, List.append_assoc, List.append_assoc [Lexeme.comma],
      List.singleton_append, List.map_eq_cons_iff] at hts
    obtain ⟨⟨lexeme, start, next, stop⟩, ts, rfl, rfl, hts⟩ := hts
    obtain ⟨tsm, ts, rfl, htsm, hts⟩ := List.map_eq_append_iff.mp hts
    obtain ⟨e, item, hitem, hfirst⟩ := assembles_member finish stack (ts ++ rest) token opening first
      hm htsm (.inr rfl) hdepth done
    obtain ⟨further, hfurther, hread⟩ := ih hmembers hts (((m.1, e), item) :: done)
    refine ⟨((m.1, e), item) :: further, memberValues_cons hitem hfurther, ?_⟩
    rw [List.cons_append, ofTokens_objectComma, List.append_assoc, hfirst, hread,
      List.reverse_cons, List.append_assoc, List.singleton_append]

omit first

/-- The lexemes of an object are put together member by member. -/
theorem assembles_object {depth : Nat} {members : List (String × Value)}
    (h : ∀ m ∈ members, Assembles depth m.2) : Assembles (depth + 1) (.object members) := by
  intro ts hts finish expected stack rest he hdepth
  rw [Value.lexemes, Value.memberLexemes_eq, List.cons_append, List.map_eq_cons_iff] at hts
  obtain ⟨⟨lexeme, start, next, stop⟩, ts, rfl, rfl, hts⟩ := hts
  rw [List.cons_append, ofTokens_openBrace _ _ _ _ _ _ he (by omega)]
  cases members with
  | nil =>
    rw [List.map_nil, joined, List.nil_append, List.map_eq_singleton_iff] at hts
    obtain ⟨⟨lexeme, start, next, stop⟩, rfl, rfl⟩ := hts
    exact ⟨_, rfl, ofTokens_closeBrace finish stack rest start next stop _ _ _ [] (.inl rfl)⟩
  | cons m members =>
    obtain ⟨hm, hmembers⟩ := List.forall_mem_cons.mp h
    rw [List.map_cons, joined, List.append_assoc, List.nil_append] at hts
    obtain ⟨tsm, ts, rfl, htsm, hts⟩ := List.map_eq_append_iff.mp hts
    obtain ⟨e, item, hitem, hfirst⟩ := assembles_member finish stack (ts ++ rest) _ _ _ hm htsm
      (.inl rfl) hdepth []
    obtain ⟨further, hfurther, hread⟩ :=
      assembles_members finish stack rest _ _ _ hmembers hts hdepth [((m.1, e), item)]
    rw [List.append_assoc]
    refine ⟨_, ?_, hfirst.trans hread⟩
    rw [Reading.value, List.reverse_singleton, List.singleton_append,
      memberValues_cons hitem hfurther]
    rfl

end

theorem assembles {depth : Nat} {v : Value} (h : Printable depth v) : Assembles depth v := by
  induction h with
  | null => exact assembles_leaf _ rfl
  | boolean b => exact assembles_leaf _ rfl
  | integer _ _ => exact assembles_leaf _ rfl
  | text s => exact assembles_leaf _ rfl
  | array _ ih => exact assembles_array ih
  | object _ ih => exact assembles_object ih

end Document

/-- A printed value is read back, blanks at the end apart. -/
theorem decode_print {v : Value} (h : Printable 127 v) {blanks : String}
    (hblanks : ∀ c ∈ blanks.toList, isBlank c = true) :
    decode Reading.value (v.print ++ blanks) = .ok v := by
  have hend : Delimited blanks.toList := by
    intro c hc
    have hblank := hblanks c (List.mem_of_mem_head? hc)
    simp only [isBlank, Bool.or_eq_true, beq_iff_eq] at hblank
    rcases hblank with ((rfl | rfl) | rfl) | rfl <;> decide
  have htext : (v.print ++ blanks).toList = characters (v.pieces 0) ++ blanks.toList := by
    rw [String.toList_append, Value.print, String.toList_join, characters]
  -- the text is cut into the lexemes of the value, and the blanks behind it into none
  obtain ⟨ts, m, hts, hcut⟩ := Value.cutsInto_pieces h 0 blanks.toList hend .start
  obtain ⟨blank, m', hblank, hcut'⟩ := cutsInto_blanks hblanks [] m
  rw [List.append_nil, List.map_eq_nil_iff.mp hblank, List.nil_append, tokensFrom] at hcut'
  rw [hcut'] at hcut
  -- the lexemes are put together to a reading of the value
  obtain ⟨r, hr, hread⟩ := Document.assembles h ts hts (Mark.start.past (v.print ++ blanks).toList)
    .value [] [] (.inl rfl) (Nat.le_refl _)
  rw [decode, Document.ofText, htext, hcut, ← htext, hread]
  change (Reading.value r >>= fun v => Reading.barring none v) = _
  rw [hr]
  rfl

end Lexicon.Json
