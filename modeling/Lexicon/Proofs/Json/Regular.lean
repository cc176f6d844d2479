import Lexicon.Proofs.Json.Bare
import Lexicon.Proofs.Json.RoundTrip

namespace Lexicon.Json

/-- Leaves have no brackets, and of objects that have been closed, what is noted beside the members
agrees with the closing. -/
inductive Reading.Regular : Reading → Prop
  | leaf {v : Value} (bare : v.Bare) (token : Token) : Regular (.leaf v token)
  | broken (fault : Fault) (token : Option Token) : Regular (.broken fault token)
  | array {token : Token} {opening : Ending} {items : List (Reading × Ending)}
      {fault : Option Fault} (items_regular : ∀ item ∈ items, Regular item.1) :
      Regular (.array token opening items fault)
  | object {token : Token} {opening : Ending} {first : Option Token} {members : List Member}
      {fault : Option Fault} (members_regular : ∀ m ∈ members, Regular m.2.1)
      (first_some : fault = none → members ≠ [] → first.isSome)
      (last_closes : fault = none → ∀ m ∈ members.getLast?, m.2.2.fault = none) :
      Regular (.object token opening first members fault)

namespace Frame

/-- All values behind an open bracket are regular. -/
def Holds : Frame → Prop
  | array _ _ items => ∀ item ∈ items, item.1.Regular
  | object _ _ _ members _ => ∀ m ∈ members, m.2.1.Regular

/-- An open bracket that a value is wanted behind: a key of an object waits for it. -/
def Awaits : Frame → Prop
  | array .. => True
  | object _ _ first _ key => first.isSome ∧ key.isSome

/-- What is known of the innermost open bracket where something is expected. -/
def Expects (finish : Mark) (tokens : List Token) : Expectation → Frame → Prop
  | .value, frame | .colon, frame => frame.Awaits
  | .firstItem, array .. | .separator, array .. => True
  | .firstKey, object _ _ first members key => first = tokens.head? ∧ members = [] ∧ key = none
  | .nextKey, object _ _ first _ _ => first.isSome
  | .separator, object _ _ first members key =>
    first.isSome ∧ key = none ∧ ∀ m ∈ members.head?, m.2.2 = .ofObject finish tokens
  | _, _ => False

theorem Holds.push {frame : Frame} (h : frame.Holds) {value : Reading} (hvalue : value.Regular)
    (ending : Ending) : (frame.push value ending).Holds := by
  cases frame with
  | array token opening items => exact List.forall_mem_cons.mpr ⟨hvalue, h⟩
  | object token opening first members key =>
    cases key with
    | none => exact h
    | some key => exact List.forall_mem_cons.mpr ⟨hvalue, h⟩

/-- Behind a value that was waited for, its bracket is as it has to be before a separator. -/
theorem Awaits.push {frame : Frame} (h : frame.Awaits) (value : Reading) (finish : Mark)
    (rest : List Token) :
    (frame.push value (frame.ending finish rest)).Expects finish rest .separator := by
  cases frame with
  | array token opening items => trivial
  | object token opening first members key =>
    obtain ⟨hfirst, hkey⟩ := h
    cases key with
    | none => exact absurd hkey (by decide)
    | some key => exact ⟨hfirst, rfl, fun m hm => by cases hm; rfl⟩

/-- A bracket that is given up leaves a regular reading, whatever is noted beside the members. -/
theorem Holds.finish_some {frame : Frame} (h : frame.Holds) (fault : Fault) :
    (frame.finish (some fault)).Regular := by
  cases frame with
  | array token opening items => exact .array fun item hitem => h item (List.mem_reverse.mp hitem)
  | object token opening first members key =>
    exact .object (fun m hm => h m (List.mem_reverse.mp hm)) nofun nofun

end Frame

namespace Document

/-- Giving up leaves a fault behind the members of every open bracket. -/
theorem regular_abandon {stack : List Frame} (hstack : ∀ frame ∈ stack, frame.Holds) (fault : Fault)
    {value : Option Reading} (hvalue : ∀ r ∈ value, r.Regular) :
    (abandon fault value stack).root.Regular := by
  -- from the innermost bracket outwards, each is left with the fault behind its members
  induction stack generalizing value with
  | nil =>
    cases value with
    | none => exact .broken fault none
    | some r => exact hvalue r rfl
  | cons frame outer ih =>
    obtain ⟨hframe, houter⟩ := List.forall_mem_cons.mp hstack
    refine ih houter fun r hr => ?_
    cases hr
    cases value with
    | none => exact hframe.finish_some fault
    | some value => exact (hframe.push (hvalue value rfl) _).finish_some fault

theorem regular_abandonNone {stack : List Frame} (hstack : ∀ frame ∈ stack, frame.Holds)
    (fault : Fault) : (abandon fault none stack).root.Regular :=
  regular_abandon hstack fault nofun

theorem regular_abandonValue {stack : List Frame} (hstack : ∀ frame ∈ stack, frame.Holds)
    (fault : Fault) (token : Option Token) : (abandonValue fault token stack).root.Regular :=
  regular_abandon hstack fault fun r hr => by cases hr; exact .broken fault token

/-- The open brackets where something is expected. All but the innermost wait for a value. -/
def Open (finish : Mark) (tokens : List Token) (expected : Expectation) : List Frame → Prop
  | [] => True
  | frame :: outer =>
    frame.Holds ∧ frame.Expects finish tokens expected ∧ ∀ f ∈ outer, f.Holds ∧ f.Awaits

theorem Open.holds {finish : Mark} {tokens : List Token} {expected : Expectation}
    {stack : List Frame} (h : Open finish tokens expected stack) :
    ∀ frame ∈ stack, frame.Holds := by
  cases stack with
  | nil => exact List.forall_mem_nil _
  | cons frame outer => exact List.forall_mem_cons.mpr ⟨h.1, fun f hf => (h.2.2 f hf).1⟩

/-- The brackets around a value that may stand here all wait for one. -/
theorem Open.awaits {finish : Mark} {tokens : List Token} {expected : Expectation}
    {stack : List Frame} (h : Open finish tokens expected stack)
    (he : expected = .value ∨ expected = .firstItem) :
    ∀ frame ∈ stack, frame.Holds ∧ frame.Awaits := by
  cases stack with
  | nil => exact List.forall_mem_nil _
  | cons frame outer =>
    obtain ⟨hframe, hexpects, houter⟩ := h
    refine List.forall_mem_cons.mpr ⟨⟨hframe, ?_⟩, houter⟩
    rcases he with rfl | rfl
    · exact hexpects
    · cases frame with
      | array => trivial
      | object => exact hexpects.elim

/-! ### One token -/

section
variable (finish : Mark) {expected : Expectation} (stack : List Frame) (rest : List Token)
  (start next stop : Mark)

theorem ofTokens_deepBracket (he : expected = .value ∨ expected = .firstItem)
    (hdepth : ¬stack.length < 127) :
    ofTokens finish expected stack (⟨.openBracket, start, next, stop⟩ :: rest) =
      abandonValue ⟨.tooDeep, some next⟩ (some ⟨.openBracket, start, next, stop⟩) stack := by
  rcases he with rfl | rfl <;> exact if_pos (Nat.le_of_not_lt hdepth)

theorem ofTokens_deepBrace (he : expected = .value ∨ expected = .firstItem)
    (hdepth : ¬stack.length < 127) :
    ofTokens finish expected stack (⟨.openBrace, start, next, stop⟩ :: rest) =
      abandonValue ⟨.tooDeep, some next⟩ (some ⟨.openBrace, start, next, stop⟩) stack := by
  rcases he with rfl | rfl <;> exact if_pos (Nat.le_of_not_lt hdepth)

variable (token : Token) (opening : Ending) (first : Option Token) (members : List Member)
  (waiting : Option (String × Ending))

theorem ofTokens_keyOnly (he : expected = .firstKey ∨ expected = .nextKey) (key : String) :
    ofTokens finish expected (.object token opening first members waiting :: stack)
        (⟨.leaf (.text key), start, next, stop⟩ :: rest) =
      ofTokens finish .colon
        (.object token opening first members (some (key, .ofObject finish rest)) :: stack)
        rest := by
  rcases he with rfl | rfl <;> rfl

end

section
variable {finish : Mark} {rest : List Token} {stack : List Frame} {start next stop : Mark}
  (ih : ∀ expected stack, Open finish rest expected stack →
    (ofTokens finish expected stack rest).root.Regular)
include ih

theorem regular_behind (h : ∀ frame ∈ stack, frame.Holds ∧ frame.Awaits) {value : Reading}
    (hvalue : value.Regular) : (behind finish value stack rest).root.Regular := by
  cases stack with
  | nil => exact hvalue
  | cons frame outer =>
    obtain ⟨⟨hframe, hawaits⟩, houter⟩ := List.forall_mem_cons.mp h
    exact ih .separator (frame.push value (frame.ending finish rest) :: outer)
      ⟨hframe.push hvalue _, hawaits.push value finish rest, houter⟩

/-- Where a value may stand. -/
theorem regular_value {lexeme : Lexeme} {expected : Expectation}
    (he : expected = .value ∨ expected = .firstItem) (hplain : lexeme.Plain)
    (h : Open finish (⟨lexeme, start, next, stop⟩ :: rest) expected stack) :
    (ofTokens finish expected stack (⟨lexeme, start, next, stop⟩ :: rest)).root.Regular := by
  have hawaits := h.awaits he
  -- only a leaf or a bracket that opens can begin a value
  cases lexeme with
  | leaf v =>
    rw [ofTokens_leaf finish stack rest start next stop he]
    exact regular_behind ih hawaits (.leaf (hplain v rfl) _)
  | openBracket =>
    by_cases hdepth : stack.length < 127
    · rw [ofTokens_openBracket finish stack rest start next stop he hdepth]
      exact ih .firstItem _ ⟨List.forall_mem_nil _, trivial, hawaits⟩
    · rw [ofTokens_deepBracket finish stack rest start next stop he hdepth]
      exact regular_abandonValue h.holds _ _
  | openBrace =>
    by_cases hdepth : stack.length < 127
    · rw [ofTokens_openBrace finish stack rest start next stop he hdepth]
      exact ih .firstKey _ ⟨List.forall_mem_nil _, ⟨rfl, rfl, rfl⟩, hawaits⟩
    · rw [ofTokens_deepBrace finish stack rest start next stop he hdepth]
      exact regular_abandonValue h.holds _ _
  | closeBracket =>
    -- a bracket that closes ends a list without items, and is out of place elsewhere
    rcases he with rfl | rfl
    · cases stack with
      | nil => exact regular_abandonValue h.holds _ _
      | cons frame outer =>
        cases frame with
        | array => exact regular_abandonNone h.holds _
        | object => exact regular_abandonValue h.holds _ _
    · cases stack with
      | nil => exact regular_abandonValue h.holds _ _
      | cons frame outer =>
        cases frame with
        | array token opening items =>
          rw [ofTokens_closeBracket finish outer rest start next stop token opening items
            (.inl rfl)]
          exact regular_behind ih h.2.2
            (.array fun item hitem => h.1 item (List.mem_reverse.mp hitem))
        | object => exact h.2.1.elim
  | closeBrace => rcases he with rfl | rfl <;> exact regular_abandonValue h.holds _ _
  | comma => rcases he with rfl | rfl <;> exact regular_abandonValue h.holds _ _
  | colon => rcases he with rfl | rfl <;> exact regular_abandonValue h.holds _ _
  | stray => rcases he with rfl | rfl <;> exact regular_abandonValue h.holds _ _
  | broken shape f => rcases he with rfl | rfl <;> exact regular_abandonValue h.holds _ _

/-- Where a key may stand. -/
theorem regular_key {lexeme : Lexeme} {expected : Expectation}
    (he : expected = .firstKey ∨ expected = .nextKey)
    (h : Open finish (⟨lexeme, start, next, stop⟩ :: rest) expected stack) :
    (ofTokens finish expected stack (⟨lexeme, start, next, stop⟩ :: rest)).root.Regular := by
  cases stack with
  | nil =>
    rcases he with rfl | rfl <;> cases lexeme with
    | leaf v => cases v <;> exact regular_abandonNone h.holds _
    | broken shape f => cases shape <;> exact regular_abandonNone h.holds _
    | _ => exact regular_abandonNone h.holds _
  | cons frame outer =>
    cases frame with
    | array => rcases he with rfl | rfl <;> exact h.2.1.elim
    | object token opening first members waiting =>
      -- only a text can be a key, and only a first key may be missing
      cases lexeme with
      | leaf v =>
        cases v with
        | text key =>
          -- a token has been found behind the bracket, be it this key or an earlier one
          have hfirst : first.isSome := by
            rcases he with rfl | rfl
            · rw [h.2.1.1]
              rfl
            · exact h.2.1
          rw [ofTokens_keyOnly finish outer rest start next stop token opening first members
            waiting he]
          exact ih .colon _ ⟨h.1, ⟨hfirst, rfl⟩, h.2.2⟩
        | _ => rcases he with rfl | rfl <;> exact regular_abandonNone h.holds _
      | closeBrace =>
        rcases he with rfl | rfl
        · obtain ⟨hfirst, rfl, rfl⟩ := h.2.1
          rw [ofTokens_closeBrace finish outer rest start next stop token opening first []
            (.inl rfl)]
          exact regular_behind ih h.2.2 (.object (List.forall_mem_nil _)
            (fun _ hne => absurd rfl hne) fun _ m hm => absurd hm (Option.not_mem_none m))
        · exact regular_abandonNone h.holds _
      | broken shape f =>
        rcases he with rfl | rfl <;> cases shape <;> exact regular_abandonNone h.holds _
      | _ => rcases he with rfl | rfl <;> exact regular_abandonNone h.holds _

theorem regular_colon {lexeme : Lexeme}
    (h : Open finish (⟨lexeme, start, next, stop⟩ :: rest) .colon stack) :
    (ofTokens finish .colon stack (⟨lexeme, start, next, stop⟩ :: rest)).root.Regular := by
  cases lexeme with
  | colon =>
    refine ih .value stack ?_
    cases stack with
    | nil => trivial
    | cons frame outer => exact h
  | _ => exact regular_abandonValue h.holds _ _

/-- Behind a value. -/
theorem regular_separator {lexeme : Lexeme}
    (h : Open finish (⟨lexeme, start, next, stop⟩ :: rest) .separator stack) :
    (ofTokens finish .separator stack (⟨lexeme, start, next, stop⟩ :: rest)).root.Regular := by
  cases stack with
  | nil => cases lexeme <;> exact regular_abandonNone h.holds _
  | cons frame outer =>
    obtain ⟨hframe, hexpects, houter⟩ := h
    have holds : ∀ f ∈ frame :: outer, f.Holds :=
      List.forall_mem_cons.mpr ⟨hframe, fun f hf => (houter f hf).1⟩
    cases frame with
    | array token opening items =>
      cases lexeme with
      | comma =>
        exact ih .value (.array token opening items :: outer) ⟨hframe, trivial, houter⟩
      | closeBracket =>
        rw [ofTokens_closeBracket finish outer rest start next stop token opening items (.inr rfl)]
        exact regular_behind ih houter
          (.array fun item hitem => hframe item (List.mem_reverse.mp hitem))
      | _ => exact regular_abandonNone holds _
    | object token opening first members key =>
      obtain ⟨hfirst, rfl, hlast⟩ := hexpects
      cases lexeme with
      | comma =>
        exact ih .nextKey (.object token opening first members none :: outer)
          ⟨hframe, hfirst, houter⟩
      | closeBrace =>
        rw [ofTokens_closeBrace finish outer rest start next stop token opening first members
          (.inr rfl)]
        refine regular_behind ih houter ?_
        refine .object (fun m hm => hframe m (List.mem_reverse.mp hm)) (fun _ _ => hfirst) ?_
        -- the bracket that the last member was asked about is the one that stands here
        intro _ m hm
        rw [List.getLast?_reverse] at hm
        rw [hlast m hm]
        rfl
      | _ => exact regular_abandonNone holds _

end

theorem regular_ofTokens (finish : Mark) {tokens : List Token}
    (hplain : ∀ t ∈ tokens, t.lexeme.Plain) {expected : Expectation} {stack : List Frame}
    (h : Open finish tokens expected stack) :
    (ofTokens finish expected stack tokens).root.Regular := by
  -- along the tokens: what one of them leaves open is as the rest expects it
  induction tokens generalizing expected stack with
  | nil =>
    cases expected with
    | value => exact regular_abandonValue h.holds _ _
    | firstItem => exact regular_abandonNone h.holds _
    | firstKey => exact regular_abandonNone h.holds _
    | nextKey => exact regular_abandonNone h.holds _
    | colon => exact regular_abandonValue h.holds _ _
    | separator =>
      cases stack with
      | nil => exact regular_abandonNone h.holds _
      | cons frame outer => cases frame <;> exact regular_abandonNone h.holds _
  | cons t rest ih =>
    obtain ⟨lexeme, start, next, stop⟩ := t
    obtain ⟨hlexeme, hrest⟩ := List.forall_mem_cons.mp hplain
    have ih' : ∀ expected stack, Open finish rest expected stack →
        (ofTokens finish expected stack rest).root.Regular := fun _ _ h => ih hrest h
    cases expected with
    | value => exact regular_value ih' (.inl rfl) hlexeme h
    | firstItem => exact regular_value ih' (.inr rfl) hlexeme h
    | firstKey => exact regular_key ih' (.inl rfl) h
    | nextKey => exact regular_key ih' (.inr rfl) h
    | colon => exact regular_colon ih' h
    | separator => exact regular_separator ih' h

/-- What is read of a text is regular, whether the text is well-formed or not. -/
theorem regular_ofText (text : String) : (ofText text).root.Regular :=
  regular_ofTokens _ (plain_tokensFrom _ _) trivial

end Document

end Lexicon.Json
