import Lexicon.Artifact.Listing
import Lexicon.Proofs.Generation.Preparation
import Lexicon.Proofs.Json.RoundTrip

namespace Lexicon

namespace Json.Value

def member? (key : String) : Value → Option Value
  | object members => members.lookup key
  | _ => none

def natural? : Value → Option Nat
  | integer (.ofNat n) => some n
  | _ => none

def text? : Value → Option String
  | text s => some s
  | _ => none

def items? {α : Type} (read? : Value → Option α) : Value → Option (List α)
  | array items => items.mapM read?
  | _ => none

theorem items?_array_map {α β : Type} {read? : Value → Option β} {write : α → Value} {f : α → β}
    {xs : List α} (h : ∀ x ∈ xs, read? (write x) = some (f x)) :
    items? read? (.array (xs.map write)) = some (xs.map f) := by
  rw [items?]
  induction xs with
  | nil => rfl
  | cons x xs ih =>
    obtain ⟨hx, hxs⟩ := List.forall_mem_cons.mp h
    rw [List.map_cons, List.mapM_cons, hx, ih hxs]
    rfl

end Json.Value

namespace Artifact

open Json (Value)

structure ListedToken where
  id : Nat
  name : String
  constant : String
  display : String
  category : Category
  payload : Payload
  code : String
  deriving DecidableEq, Repr

structure ListedAlias where
  name : String
  constant : String
  display : String
  target : String
  id : Nat
  deriving DecidableEq, Repr

structure ListingText where
  tokenCount : Nat
  maxToken : Nat
  firstKeyword : Nat
  tokens : List ListedToken
  aliases : List ListedAlias
  keywords : List String
  deriving DecidableEq, Repr

def ListedToken.ofValue? (v : Value) : Option ListedToken := do
  let id ← (← v.member? "id").natural?
  let name ← (← v.member? "short_name").text?
  let constant ← (← v.member? "constant").text?
  let display ← (← v.member? "display_name").text?
  let category ← Category.ofLabel? (← (← v.member? "category").text?)
  let payload ← Payload.ofLabel? (← (← v.member? "payload").text?)
  let code ← (← v.member? "payload_code").text?
  return ⟨id, name, constant, display, category, payload, code⟩

def ListedAlias.ofValue? (v : Value) : Option ListedAlias := do
  let name ← (← v.member? "short_name").text?
  let constant ← (← v.member? "constant").text?
  let display ← (← v.member? "display_name").text?
  let target ← (← v.member? "target").text?
  let id ← (← v.member? "id").natural?
  return ⟨name, constant, display, target, id⟩

def ListedToken.ofEntry (e : Entry) : ListedToken :=
  ⟨e.id.position, e.definition.name, e.definition.constant, e.definition.displayName,
    e.definition.category, e.definition.payload, String.singleton e.definition.payload.encode⟩

def ListedAlias.ofEntry (a : AliasEntry) : ListedAlias :=
  ⟨a.source.name, a.source.constant, a.source.displayName, a.source.target, a.id.position⟩

namespace ListingText

def ofValue? (v : Value) : Option ListingText := do
  let tokenCount ← (← v.member? "token_count").natural?
  let maxToken ← (← v.member? "max_token").natural?
  let firstKeyword ← (← v.member? "first_keyword").natural?
  let tokens ← (← v.member? "tokens").items? ListedToken.ofValue?
  let aliases ← (← v.member? "aliases").items? ListedAlias.ofValue?
  let keywords ← (← v.member? "keywords").items? Value.text?
  return ⟨tokenCount, maxToken, firstKeyword, tokens, aliases, keywords⟩

def read? (text : String) : Option ListingText :=
  (Json.decode Json.Reading.value text).toOption.bind ofValue?

def ofCompiled (c : Compiled) (keywords : List Entry) : ListingText where
  tokenCount := c.size
  maxToken := c.maxToken.toNat
  firstKeyword := c.firstKeyword.position
  tokens := c.entries.map .ofEntry
  aliases := c.aliases.map .ofEntry
  keywords := keywords.map (·.definition.name)

end ListingText

namespace Listing

theorem ofValue?_token (e : Entry) : ListedToken.ofValue? (token e) = some (.ofEntry e) := by
  have hcategory (k : Category) : Category.ofLabel? k.label = some k := by cases k <;> decide
  have hpayload (p : Payload) : Payload.ofLabel? p.label = some p := by cases p <;> decide
  simp [ListedToken.ofValue?, ListedToken.ofEntry, token, Value.member?, List.lookup, Value.text?, Value.natural?,
    number, hcategory, hpayload]

theorem ofValue?_sourceAlias (a : AliasEntry) :
    ListedAlias.ofValue? (sourceAlias a) = some (.ofEntry a) := by
  simp [ListedAlias.ofValue?, ListedAlias.ofEntry, sourceAlias, Value.member?, List.lookup, Value.text?,
    Value.natural?, number]

def valueWith (c : Compiled) (keywords : List Entry) : Value := .object [
  ("token_count", number c.size),
  ("max_token", number c.maxToken.toNat),
  ("first_keyword", number c.firstKeyword.position),
  ("tokens", .array (c.entries.map token)),
  ("aliases", .array (c.aliases.map sourceAlias)),
  ("keywords", .array (keywords.map fun e => .text e.definition.name))]

theorem text?_of_boundaryInside {c : Compiled} (h : c.BoundaryInside) : text? c =
    some ((valueWith c (c.entries.drop c.firstKeyword.position)).print ++ "\n") := by
  rw [text?, value?, Compiled.keywords?, if_pos h]
  rfl

theorem printable_number {depth n : Nat} (hn : n < 0x100000000) :
    Json.Printable depth (number n) :=
  .integer (by omega) (by omega)

/-- Identifiers are small numbers, so that the listing can be printed and read back. -/
theorem printable_valueWith {c : Compiled} (hsize : c.size ≤ 65536) (keywords : List Entry) :
    Json.Printable 127 (valueWith c keywords) := by
  have hposition (id : TokenId) : id.position < 0x100000000 := id.value.toNat_lt
  have htoken (e : Entry) : Json.Printable 125 (token e) := by
    refine .object fun m hm => ?_
    fin_cases hm <;> first | exact .text _ | exact printable_number (hposition e.id)
  have hsource (a : AliasEntry) : Json.Printable 125 (sourceAlias a) := by
    refine .object fun m hm => ?_
    fin_cases hm <;> first | exact .text _ | exact printable_number (hposition a.id)
  refine .object fun m hm => ?_
  fin_cases hm
  · exact printable_number (by omega)
  · exact printable_number c.maxToken.toNat_lt
  · exact printable_number (hposition c.firstKeyword)
  all_goals
    refine .array fun v hv => ?_
    obtain ⟨x, -, rfl⟩ := List.mem_map.mp hv
  · exact htoken x
  · exact hsource x
  · exact .text _

/-- The listing says what it is to say. -/
theorem read?_valueWith {c : Compiled} (hsize : c.size ≤ 65536) (keywords : List Entry) :
    ListingText.read? ((valueWith c keywords).print ++ "\n") =
      some (.ofCompiled c keywords) := by
  have htokens : Value.items? ListedToken.ofValue? (.array (c.entries.map token)) =
      some (ListingText.ofCompiled c keywords).tokens :=
    Value.items?_array_map fun e _ => ofValue?_token e
  have haliases : Value.items? ListedAlias.ofValue? (.array (c.aliases.map sourceAlias)) =
      some (ListingText.ofCompiled c keywords).aliases :=
    Value.items?_array_map fun a _ => ofValue?_sourceAlias a
  have hkeywords : Value.items? Value.text? (.array (keywords.map fun e => .text e.definition.name)) =
      some (ListingText.ofCompiled c keywords).keywords :=
    Value.items?_array_map fun _ _ => rfl
  have hbreak : ∀ c ∈ "\n".toList, Json.isBlank c = true :=
    List.forall_mem_singleton.mpr rfl
  -- the printed value is read back, and the line break behind it is blank
  rw [ListingText.read?, Json.decode_print (printable_valueWith hsize keywords) hbreak]
  change ListingText.ofValue? (valueWith c keywords) = _
  simp [ListingText.ofValue?, valueWith, Value.member?, List.lookup, Value.natural?, number,
    htokens, haliases, hkeywords]
  rfl

end Listing

/-- What is read from the listing is the compiled table, and fits to what is read from the source. -/
structure Listed (t : Table) (c : Compiled) (l : ListingText) (s : SourceText) : Prop where
  tokens : l.tokens.length = c.size ∧ ∀ (i : Nat) (e : Entry), c.entries[i]? = some e →
    ∃ listed, l.tokens[i]? = some listed ∧ listed.id = i ∧ listed.name = e.definition.name ∧
      listed.display = e.definition.displayName ∧ listed.category = e.definition.category ∧
      listed.payload = e.definition.payload
  aliases : l.aliases.length = t.aliases.length ∧ ∀ (k : Nat) (a : Alias), t.aliases[k]? = some a →
    ∃ listed, l.aliases[k]? = some listed ∧ listed.name = a.name ∧
      listed.display = a.displayName ∧ listed.target = a.target ∧
      -- the identifier is that of the one token with the name of the target
      ∀ i, (∃ token, l.tokens[i]? = some token ∧ token.name = a.target) ↔ i = listed.id
  keywords : l.keywords = (l.tokens.drop l.firstKeyword).map (·.name) ∧
    l.firstKeyword = c.firstKeyword.position
  counts : l.tokenCount = l.tokens.length ∧
    (l.maxToken : Int) = ((l.tokenCount : Int) - 1) % 4294967296
  codes : String.join (l.tokens.map (·.code)) = s.codes

/-- The header defines the constants of the tokens and then of the aliases as the listing has them. -/
def ListingText.Constants (l : ListingText) (h : HeaderText) : Prop :=
  h.constants.map (fun k => (k.name, k.number.value)) =
    l.tokens.map (fun k => (k.constant, k.id)) ++ l.aliases.map fun a => (a.constant, a.id)

/-- Position by position, the listing says what the compiled table holds, and nothing else. -/
theorem listed_ofCompiled {t : Table} {c : Compiled} (hrepr : c.Represents t)
    (hsize : c.size ≤ 65536) :
    Listed t c (.ofCompiled c (c.entries.drop c.firstKeyword.position))
      (.ofCompiled c (c.entries.drop c.firstKeyword.position)) where
  tokens := by
    refine ⟨List.length_map _, fun i e he => ?_⟩
    refine ⟨.ofEntry e, ?_, (hrepr.numbered i e he).1, rfl, rfl, rfl, rfl⟩
    rw [ListingText.ofCompiled, List.getElem?_map, he, Option.map_some]
  aliases := by
    refine ⟨?_, fun k a ha => ?_⟩
    · rw [ListingText.ofCompiled, List.length_map, ← hrepr.aliases, List.length_map]
    · rw [← hrepr.aliases, List.getElem?_map] at ha
      obtain ⟨r, hr, rfl⟩ := Option.map_eq_some_iff.mp ha
      refine ⟨.ofEntry r, ?_, rfl, rfl, rfl, fun i => ?_⟩
      · rw [ListingText.ofCompiled, List.getElem?_map, hr, Option.map_some]
      · -- the listing has the names of the entries, among which the target is found once
        change _ ↔ i = r.id.position
        rw [← hrepr.targets r (List.mem_of_getElem? hr), ListingText.ofCompiled, List.getElem?_map]
        simp only [Option.map_eq_some_iff]
        constructor
        · rintro ⟨_, ⟨e, he, rfl⟩, hname⟩
          exact ⟨e, he, hname⟩
        · rintro ⟨e, he, hname⟩
          exact ⟨_, ⟨e, he, rfl⟩, hname⟩
  keywords := by
    refine ⟨?_, rfl⟩
    rw [ListingText.ofCompiled, ← List.map_drop, List.map_map]
    rfl
  counts := by
    refine ⟨(List.length_map _).symm, ?_⟩
    have hmax := toNat_maxToken hsize
    change (c.maxToken.toNat : Int) = ((c.size : Int) - 1) % 4294967296
    rw [hmax]
    split <;> omega
  codes := by
    rw [← String.toList_inj, String.toList_join, ListingText.ofCompiled, List.map_map,
      SourceText.ofCompiled, Source.payloadCodes, String.toList_ofList, List.flatMap_map,
      List.map_eq_flatMap]
    exact List.flatMap_congr fun _ _ => String.toList_singleton _

theorem ListingText.constants_ofCompiled (c : Compiled) (keywords : List Entry) (stamp : UInt64) :
    (ListingText.ofCompiled c keywords).Constants (.ofCompiled c stamp) := by
  rw [Constants, HeaderText.ofCompiled, ofCompiled, List.map_append, List.map_map, List.map_map,
    List.map_map, List.map_map]
  rfl

end Artifact

open Artifact (HeaderText SourceText ListingText Listed) in
/-- A table that compiles has a listing and a source. Both are read back from their texts, and what
is read from the listing is the compiled table and fits to what is read from the source. There is a
header unless a name is too long for it, and whatever the stamp, what is read from it fits as well.
A run prepares just these texts. -/
theorem Generation.listing_readBack {t : Table} {c : Compiled} (h : t.compile = .ok c)
    (stamp : UInt64) : ∃ listing source l s, Artifact.Listing.text? c = some listing ∧
      Artifact.Source.text? c = some source ∧
      ListingText.read? listing = some l ∧ SourceText.read? source = some s ∧ Listed t c l s ∧
      ((∃ header, Artifact.Header.text? c stamp = some header) ↔
        ∀ d ∈ t.definitions, d.NameFits) ∧
      (∀ header, Artifact.Header.text? c stamp = some header →
        ∃ text, HeaderText.read? header = some text ∧ l.Constants text) ∧
      ∀ p, prepare t stamp = .ok p → p.compiled = c ∧ p.listing = listing ∧
        p.artifacts.source = source ∧ Artifact.Header.text? c stamp = some p.artifacts.header := by
  obtain ⟨ha, rfl⟩ := (Table.compile_eq_ok_iff t c).mp h
  have hrepr := Compiled.represents_ofTable ha
  have hnamed := Artifact.wellNamed_of_represents hrepr ha.wellFormed
  have hsize := Compiled.size_ofTable_le ha
  have hlisting := Artifact.Listing.text?_of_boundaryInside hrepr.boundaryInside
  have hsource := Artifact.Source.text?_of_boundaryInside hrepr.boundaryInside
  refine ⟨_, _, _, _, hlisting, hsource, Artifact.Listing.read?_valueWith hsize _,
    SourceText.read?_ownText hnamed, Artifact.listed_ofCompiled hrepr hsize, ?_, fun header hheader => ?_, fun p hp => ?_⟩
  · rw [← hrepr.namesFit_iff]
    simp only [Artifact.Header.text?_eq_some_iff, exists_and_left, exists_eq, and_true]
  · obtain ⟨-, rfl⟩ := Artifact.Header.text?_eq_some_iff.mp hheader
    exact ⟨_, HeaderText.read?_header hnamed stamp, ListingText.constants_ofCompiled _ _ stamp⟩
  · obtain ⟨artifacts, listing, keywords, hartifacts, hlisting', -, rfl⟩ :=
      (prepare_eq_ok_iff h).mp hp
    obtain ⟨⟨hfit, -⟩, rfl⟩ := Artifacts.ofCompiled?_eq_some_iff.mp hartifacts
    exact ⟨rfl, Option.some.inj (hlisting'.symm.trans hlisting), rfl,
      Artifact.Header.text?_of_namesFit hfit stamp⟩

open Artifact (HeaderText SourceText ListingText Listed) in
/-- The four definitions and the alias are read back from their listing. -/
theorem Generation.mixed_listing_readBack : Table.mixed.compile = .ok Compiled.mixed ∧
    ∃ p l text s, prepare Table.mixed 7 = .ok p ∧ ListingText.read? p.listing = some l ∧
      HeaderText.read? p.artifacts.header = some text ∧
      SourceText.read? p.artifacts.source = some s ∧
      Listed Table.mixed Compiled.mixed l s ∧ l.Constants text := by
  obtain ⟨listing, source, l, s, -, -, hl, hs, hlisted, -, hconstants, hprepared⟩ :=
    listing_readBack Table.compile_mixed 7
  obtain ⟨artifacts, listing', keywords, hprepare⟩ :=
    exists_prepare_eq_ok Table.compile_mixed (by decide) 7
  obtain ⟨-, hlisting, hsource, hheader⟩ := hprepared _ hprepare
  obtain ⟨text, htext, hfits⟩ := hconstants _ hheader
  rw [← hlisting] at hl
  rw [← hsource] at hs
  exact ⟨Table.compile_mixed, _, l, text, s, hprepare, hl, htext, hs, hlisted, hfits⟩

end Lexicon
