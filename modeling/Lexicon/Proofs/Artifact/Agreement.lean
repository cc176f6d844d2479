import Lexicon.Proofs.Artifact.Writers
import Lexicon.Proofs.Table.Compilation

namespace Lexicon.Artifact

open Text (Numeral)

/-- What is read from both artifacts fits together position by position. -/
structure Agreement (t : Table) (c : Compiled) (h : HeaderText) (s : SourceText) : Prop where
  sizes : s.names.length = c.size ∧ s.codes.length = c.size ∧
    h.constants.length = c.size + t.aliases.length
  entries : ∀ (i : Nat) (e : Entry), c.entries[i]? = some e → ∃ number : Numeral,
    h.constants[i]? = some ⟨e.definition.constant, number⟩ ∧
    s.names[i]? = some ⟨Literal.escape e.definition.displayName, number⟩ ∧
    number.value = i ∧ number.spelling.length = 10
  codes : ∀ (i : Nat) (e : Entry), c.entries[i]? = some e → ∃ (code : Char) (format : Constant),
    s.codes.toList[i]? = some code ∧
    h.formats.find? (·.name == Header.payloadConstant e.definition.payload) = some format ∧
    format.number.value = code.toNat
  keywords : ∀ (k : Nat) (name : String), s.keywords[k]? = some name ↔
    ∃ (i : Nat) (e : Entry) (constant : Constant), c.entries[i]? = some e ∧
      e.definition.name = name ∧
      h.constants[i]? = some constant ∧ constant.number.value = h.firstKeyword + k
  keywordCount : s.keywords.length = s.keywordCount ∧
    (s.keywordCount : Int) = ((h.maxToken : Int) + 1 - h.firstKeyword) % 4294967296
  aliases : ∀ (k : Nat) (a : Alias), t.aliases[k]? = some a →
    ∃ (i : Nat) (e : Entry) (number : Numeral), c.entries[i]? = some e ∧
      e.definition.name = a.target ∧
      h.constants[i]? = some ⟨e.definition.constant, number⟩ ∧
        h.constants[c.size + k]? = some ⟨a.constant, number⟩

/-- The greatest identifier, which wraps around for an empty table. -/
theorem toNat_maxToken {c : Compiled} (h : c.size ≤ 65536) :
    c.maxToken.toNat = if c.size = 0 then 4294967295 else c.size - 1 := by
  rw [Compiled.maxToken, UInt32.toNat_sub, UInt32.toNat_ofNat', UInt32.toNat_one]
  split <;> omega

theorem find?_formats (p : Payload) (c : Compiled) (stamp : UInt64) :
    (HeaderText.ofCompiled c stamp).formats.find? (·.name == Header.payloadConstant p) =
      some (.ofNat (Header.payloadConstant p) p.code) := by
  change (Payload.all.map fun p => Constant.ofNat (Header.payloadConstant p) p.code).find? _ = _
  cases p <;> decide

theorem toNat_encode (p : Payload) : p.encode.toNat = p.code := by
  cases p <;> decide

variable {t : Table} {c : Compiled} (hrepr : c.Represents t)
include hrepr

theorem wellNamed_of_represents (hnames : ∀ name ∈ t.names, WellFormedName name) : WellNamed c where
  entries e he := by
    have hmem : e.definition ∈ t.definitions := hrepr.permuted.mem_iff.mp (List.mem_map_of_mem he)
    exact hnames _ (List.mem_append_left _ (List.mem_map_of_mem hmem))
  aliases a ha := by
    have hmem : a.source ∈ t.aliases := hrepr.aliases ▸ List.mem_map_of_mem ha
    exact hnames _ (List.mem_append_right _ (List.mem_map_of_mem hmem))

theorem getElem?_constants {i : Nat} {e : Entry} (he : c.entries[i]? = some e) (stamp : UInt64) :
    (HeaderText.ofCompiled c stamp).constants[i]? = some (.ofNat e.definition.constant i) := by
  have hi : i < c.entries.length := (List.getElem?_eq_some_iff.mp he).1
  rw [HeaderText.ofCompiled, List.getElem?_append_left (by rwa [List.length_map]),
    List.getElem?_map, he, Option.map_some, (hrepr.numbered i e he).1]

/-- What was written for a represented table agrees. -/
theorem agreement_ofCompiled (hsize : c.size ≤ 65536) (stamp : UInt64) : Agreement t c
    (HeaderText.ofCompiled c stamp)
      (SourceText.ofCompiled c (c.entries.drop c.firstKeyword.position)) where
  sizes := by
    refine ⟨List.length_map _, ?_, ?_⟩
    · change (Source.payloadCodes c).length = c.size
      rw [Source.payloadCodes, String.length_ofList, List.length_map, Compiled.size]
    · rw [HeaderText.ofCompiled, List.length_append, List.length_map, List.length_map,
        ← hrepr.aliases, List.length_map, Compiled.size]
  entries i e he := by
    have hi := (hrepr.numbered i e he).2
    refine ⟨.ofNat i, getElem?_constants hrepr he stamp, ?_, rfl,
      Numeral.length_spelling_ofNat (by omega)⟩
    rw [SourceText.ofCompiled, List.getElem?_map, he, Option.map_some, (hrepr.numbered i e he).1]
  codes i e he := by
    refine ⟨_, _, ?_, find?_formats e.definition.payload c stamp,
      (toNat_encode e.definition.payload).symm⟩
    change (Source.payloadCodes c).toList[i]? = _
    rw [Source.payloadCodes, String.toList_ofList, List.getElem?_map, he, Option.map_some]
  keywords k name := by
    change ((c.entries.drop c.firstKeyword.position).map (·.definition.name))[k]? = some name ↔ _
    rw [List.getElem?_map, List.getElem?_drop, Option.map_eq_some_iff]
    constructor
    · rintro ⟨e, he, hname⟩
      exact ⟨_, e, _, he, hname, getElem?_constants hrepr he stamp, rfl⟩
    · rintro ⟨i, e, constant, he, hname, hconstant, hvalue⟩
      -- the constant of an entry has its position as value, which is the one asked for
      rw [getElem?_constants hrepr he stamp, Option.some.injEq] at hconstant
      have hi : i = c.firstKeyword.position + k := by
        rw [← hconstant] at hvalue
        exact hvalue
      exact ⟨e, hi ▸ he, hname⟩
  keywordCount := by
    have hboundary := hrepr.boundary
    have hmax := toNat_maxToken hsize
    refine ⟨List.length_map _, ?_⟩
    change ((c.entries.drop c.firstKeyword.position).length : Int) =
      ((c.maxToken.toNat : Int) + 1 - c.firstKeyword.position) % 4294967296
    -- an empty table has the greatest word here, which the modulus takes back
    rw [List.length_drop, hmax, ← Compiled.size]
    split <;> omega
  aliases k a ha := by
    rw [← hrepr.aliases, List.getElem?_map] at ha
    obtain ⟨r, hr, rfl⟩ := Option.map_eq_some_iff.mp ha
    obtain ⟨e, he, hname⟩ := (hrepr.targets r (List.mem_of_getElem? hr) r.id.position).mpr rfl
    -- the line of the alias comes behind those of all entries, and has the position of its target
    refine ⟨_, e, _, he, hname, getElem?_constants hrepr he stamp, ?_⟩
    have hlength : (c.entries.map fun e =>
        Constant.ofNat e.definition.constant e.id.position).length = c.size :=
      List.length_map _
    rw [HeaderText.ofCompiled, List.getElem?_append_right (by omega), hlength,
      Nat.add_sub_cancel_left, List.getElem?_map, hr, Option.map_some]
    rfl

end Lexicon.Artifact

namespace Lexicon

/-- The names of the entries are those of the definitions. -/
theorem Compiled.Represents.namesFit_iff {t : Table} {c : Compiled} (h : c.Represents t) :
    c.NamesFit ↔ ∀ d ∈ t.definitions, d.NameFits := by
  have hmem (d : Definition) : d ∈ t.definitions ↔ d ∈ c.entries.map (·.definition) :=
    h.permuted.mem_iff.symm
  simp only [hmem, List.forall_mem_map]
  rfl

/-- A table that compiles has artifacts exactly if all its names fit into the header. -/
theorem Compiled.Represents.exists_artifacts_iff {t : Table} {c : Compiled} (h : c.Represents t)
    (stamp : UInt64) : (∃ artifacts, Artifacts.ofCompiled? c stamp = some artifacts) ↔
      ∀ d ∈ t.definitions, d.NameFits := by
  simp only [Artifacts.ofCompiled?_eq_some_iff, exists_and_left, exists_eq, and_true,
    h.boundaryInside, h.namesFit_iff]

/-- A table that compiles has artifacts under every stamp, unless a name is too long for the header.
Whenever there are artifacts, both are read back from their texts, and what is read agrees. -/
theorem Artifacts.readBack_agree {t : Table} {c : Compiled} (h : t.compile = .ok c)
    (stamp : UInt64) :
    ((∃ artifacts, ofCompiled? c stamp = some artifacts) ↔ ∀ d ∈ t.definitions, d.NameFits) ∧
      ∀ artifacts, ofCompiled? c stamp = some artifacts → ∃ header source,
        Artifact.HeaderText.read? artifacts.header = some header ∧
        Artifact.SourceText.read? artifacts.source = some source ∧
        Artifact.Agreement t c header source := by
  obtain ⟨ha, rfl⟩ := (Table.compile_eq_ok_iff t c).mp h
  have hrepr := Compiled.represents_ofTable ha
  have hnamed := Artifact.wellNamed_of_represents hrepr ha.wellFormed
  have hagree := Artifact.agreement_ofCompiled hrepr (Compiled.size_ofTable_le ha) stamp
  refine ⟨hrepr.exists_artifacts_iff stamp, fun artifacts hsome => ?_⟩
  obtain ⟨-, rfl⟩ := ofCompiled?_eq_some_iff.mp hsome
  exact ⟨_, _, Artifact.HeaderText.read?_header hnamed stamp,
    Artifact.SourceText.read?_ownText hnamed, hagree⟩

/-- The four definitions and the alias are read back from their artifacts. -/
theorem Artifacts.mixed_readBack : Table.mixed.compile = .ok Compiled.mixed ∧
    ∃ artifacts header source, Artifacts.ofCompiled? Compiled.mixed 7 = some artifacts ∧
      Artifact.HeaderText.read? artifacts.header = some header ∧
      Artifact.SourceText.read? artifacts.source = some source ∧
      Artifact.Agreement Table.mixed Compiled.mixed header source := by
  obtain ⟨hiff, hread⟩ := readBack_agree Table.compile_mixed 7
  obtain ⟨artifacts, hsome⟩ := hiff.mpr (by decide)
  obtain ⟨header, source, hagree⟩ := hread artifacts hsome
  exact ⟨Table.compile_mixed, artifacts, header, source, hsome, hagree⟩

end Lexicon
