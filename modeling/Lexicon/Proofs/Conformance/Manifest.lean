import Lexicon.Conformance.Manifest
import Lexicon.Proofs.Json.Reads

namespace Lexicon.Conformance

open Json (Value WellKeyed Reading Record Decoder)
open Fallible

/-! ### Objects with defaults -/

section
variable {α : Type} (members : List (String × Value)) (key : String) (Form : Value → α → Prop)

/-- What an object says of a key that may be left out or hold `null`. -/
inductive Optional : Option α → Prop
  | absent (h : key ∉ members.map (·.1)) : Optional none
  | null (h : (key, .null) ∈ members) : Optional none
  | given {v : Value} {a : α} (h : (key, v) ∈ members) (form : Form v a) : Optional (some a)

/-- What an object says of a key that may be left out. -/
inductive Defaulted (default : α) : α → Prop
  | absent (h : key ∉ members.map (·.1)) : Defaulted default default
  | given {v : Value} {a : α} (h : (key, v) ∈ members) (form : Form v a) : Defaulted default a

variable {members key Form}

/-- Distinct keys have one value each. -/
theorem value_unique (hkeys : (members.map (·.1)).Nodup) {v w : Value} (hv : (key, v) ∈ members)
    (hw : (key, w) ∈ members) : v = w := by
  have hmember : (key, v) = (key, w) := List.inj_on_of_nodup_map hkeys hv hw rfl
  exact (Prod.mk.inj hmember).2

/-- A key that may be left out is read by its value, and `null` as nothing. -/
theorem Optional.reads (hkeys : (members.map (·.1)).Nodup) {read : Decoder α}
    (hread : ∀ v a, Form v a → v ≠ .null ∧ read.Reads v a) {a : Option α}
    (h : Optional members key Form a) {v : Value} (hv : (key, v) ∈ members) :
    Decoder.Reads (Reading.optional read) v a := by
  cases h with
  | absent hkey => exact absurd (List.mem_map_of_mem hv) hkey
  | null hnull =>
    obtain rfl := value_unique hkeys hv hnull
    exact Reading.reads_optional_null read
  | given hw form =>
    obtain rfl := value_unique hkeys hv hw
    exact (hread _ _ form).2.optional (hread _ _ form).1

theorem Optional.eq_none {a : Option α} (h : Optional members key Form a)
    (hkey : key ∉ members.map (·.1)) : a = none := by
  cases h with
  | absent => rfl
  | null => rfl
  | given hv => exact absurd (List.mem_map_of_mem hv) hkey

theorem Defaulted.reads (hkeys : (members.map (·.1)).Nodup) {read : Decoder α}
    (hread : ∀ v a, Form v a → read.Reads v a) {default a : α}
    (h : Defaulted members key Form default a) {v : Value} (hv : (key, v) ∈ members) :
    read.Reads v a := by
  cases h with
  | absent hkey => exact absurd (List.mem_map_of_mem hv) hkey
  | given hw form =>
    obtain rfl := value_unique hkeys hv hw
    exact hread _ _ form

theorem Defaulted.eq_default {default a : α} (h : Defaulted members key Form default a)
    (hkey : key ∉ members.map (·.1)) : a = default := by
  cases h with
  | absent => rfl
  | given hv => exact absurd (List.mem_map_of_mem hv) hkey

end

/-- A component that is overlaid whenever its key comes is in the end as it is in `e`, if it is so
in the beginning or its key comes at all. -/
theorem foldl_overlay {σ α : Type} {component : σ → α} {overlay : String → σ → σ} (key : String)
    {e : σ} (h : ∀ key' acc, component (overlay key' acc) =
      if key' = key then component e else component acc) {keys : List String} {acc : σ}
    (hacc : key ∉ keys → component acc = component e) :
    component (keys.foldl (fun acc key => overlay key acc) acc) = component e := by
  induction keys generalizing acc with
  | nil => exact hacc List.not_mem_nil
  | cons key' keys ih =>
    refine ih fun hkey => ?_
    rw [h]
    split_ifs with heq
    · rfl
    · exact hacc (List.not_mem_cons_of_ne_of_not_mem (Ne.symm heq) hkey)

/-! ### The forms of values -/

/-- A name, by itself or as the only key of an object without payload. -/
def Named (name : String) (v : Value) : Prop := v = .text name ∨ v = .object [(name, .null)]

def TextForm (v : Value) (s : String) : Prop := v = .text s

def TextsForm (v : Value) (ss : List String) : Prop := v = .array (ss.map .text)

/-- The forms of a check. A needle is the bytes of its text. -/
inductive CheckForm : Value → Check → Prop
  | any {v : Value} (h : Named "any" v) : CheckForm v .any
  | contains (s : String) : CheckForm (.object [("contains", .text s)]) (.contains (Text.utf8 s))
  | notContains (s : String) :
      CheckForm (.object [("not_contains", .text s)]) (.notContains (Text.utf8 s))
  | matching {s : String} {pattern : Pattern} (h : Pattern.ofText s = .ok pattern) :
      CheckForm (.object [("matches", .text s)]) (.matching pattern)

inductive ExitForm : Value → ExitExpectation → Prop
  | code {n : Int} (hleast : -0x80000000 ≤ n) (hmost : n < 0x80000000) :
      ExitForm (.integer n) (.code (Int32.ofInt n))
  | zero {v : Value} (h : Named "zero" v) : ExitForm v .zero
  | nonZero {v : Value} (h : Named "non-zero" v) : ExitForm v .nonZero

inductive PlatformForm : Value → Platform → Prop
  | windows {v : Value} (h : Named "windows" v) : PlatformForm v .windows
  | unix {v : Value} (h : Named "unix" v) : PlatformForm v .unix

theorem Named.ne_null {name : String} {v : Value} (h : Named name v) : v ≠ .null := by
  rintro rfl
  rcases h with h | h <;> exact nomatch h

theorem Named.reads {α : Type} {variants : List (Json.Variant α)} {name : String} {a : α}
    (hfind : variants.find? (·.name == name) = some (.bare name a)) {v : Value} (h : Named name v) :
    Decoder.Reads (Json.Variant.read variants) v a := by
  rcases h with rfl | rfl
  · exact Json.Variant.reads_bare hfind
  · exact Json.Variant.reads_keyed hfind (Json.Variant.reads_payload_null name a)

theorem TextForm.reads (v : Value) (s : String) (h : TextForm v s) :
    v ≠ .null ∧ Decoder.Reads Reading.text v s := by
  obtain rfl := h
  exact ⟨nofun, Reading.reads_text s⟩

theorem TextsForm.reads (v : Value) (ss : List String) (h : TextsForm v ss) :
    Decoder.Reads (Reading.list Reading.text) v ss := by
  obtain rfl := h
  refine Decoder.Reads.list (List.forall₂_map_left_iff.mpr ?_)
  exact List.forall₂_same.mpr fun s _ => Reading.reads_text s

theorem CheckForm.reads (v : Value) (c : Check) (h : CheckForm v c) :
    v ≠ .null ∧ Check.decoder.Reads v c := by
  cases h with
  | any h => exact ⟨h.ne_null, h.reads rfl⟩
  | contains s =>
    refine ⟨nofun, Json.Variant.reads_keyed rfl ?_⟩
    exact (Reading.reads_text s).map fun s => Check.contains (Text.utf8 s)
  | notContains s =>
    refine ⟨nofun, Json.Variant.reads_keyed rfl ?_⟩
    exact (Reading.reads_text s).map fun s => Check.notContains (Text.utf8 s)
  | @matching s pattern hpattern =>
    refine ⟨nofun, Json.Variant.reads_keyed rfl fun r _ hv => ?_⟩
    -- a pattern is read as a text and then compiled, which has not failed
    obtain ⟨token, rfl⟩ := Reading.eq_leaf_of_value (v := .text s) trivial hv
    change Check.patternDecoder (.leaf (.text s) token) = _
    rw [Check.patternDecoder]
    refine bind_eq_ok_iff.mpr ⟨(s, token.stop), rfl, ?_⟩
    dsimp only
    rw [hpattern]

theorem ExitForm.ofValue?_eq {v : Value} {e : ExitExpectation} (h : ExitForm v e) :
    ExitExpectation.ofValue? v = some e := by
  cases h with
  | code hleast hmost => exact if_pos ⟨hleast, hmost⟩
  | zero h => rcases h with rfl | rfl <;> rfl
  | nonZero h => rcases h with rfl | rfl <;> rfl

theorem ExitForm.reads (v : Value) (e : ExitExpectation) (h : ExitForm v e) :
    ExitExpectation.decoder.Reads v e := by
  intro r _ hv
  refine bind_eq_ok_iff.mpr ⟨v, hv, ?_⟩
  rw [h.ofValue?_eq]

theorem PlatformForm.reads (v : Value) (p : Platform) (h : PlatformForm v p) :
    v ≠ .null ∧ Platform.decoder.Reads v p := by
  cases h with
  | windows h => exact ⟨h.ne_null, h.reads rfl⟩
  | unix h => exact ⟨h.ne_null, h.reads rfl⟩

/-! ### Cases -/

/-- What an object says of a case: its keys in any order, with the placeholders of its program and
its arguments filled in. -/
structure Case.Describes (p : Placeholders) (members : List (String × Value)) (c : Case) :
    Prop where
  keys : WellKeyed ["name", "program", "args", "check", "exit", "only_on"] ["name"]
    (members.map (·.1))
  name : ("name", .text c.name) ∈ members
  program : ∃ program, Optional members "program" TextForm program ∧
    c.program = program.elim .underTest fun path => .path (p.expand path)
  args : ∃ args, Defaulted members "args" TextsForm [] args ∧ c.args = args.map p.expand
  check : ∃ check, Optional members "check" CheckForm check ∧ c.check = check.getD .any
  exit : Defaulted members "exit" ExitForm .zero c.exit
  onlyOn : Optional members "only_on" PlatformForm c.onlyOn

attribute [ext] CaseEntry Manifest

def CaseEntry.overlay (e : CaseEntry) (key : String) (acc : CaseEntry) : CaseEntry where
  name := if key = "name" then e.name else acc.name
  program := if key = "program" then e.program else acc.program
  args := if key = "args" then e.args else acc.args
  check := if key = "check" then e.check else acc.check
  exit := if key = "exit" then e.exit else acc.exit
  onlyOn := if key = "only_on" then e.onlyOn else acc.onlyOn

/-- An object that describes a case is read as an entry that becomes the case. -/
theorem Case.Describes.reads {p : Placeholders} {members : List (String × Value)} {c : Case}
    (h : c.Describes p members) :
    ∃ e, Decoder.Reads CaseEntry.record.read (.object members) e ∧ Manifest.runnable p e = c := by
  obtain ⟨name, _, _, _, exit, onlyOn⟩ := c
  obtain ⟨program, hprogram, rfl⟩ := h.program
  obtain ⟨args, hargs, rfl⟩ := h.args
  obtain ⟨check, hcheck, rfl⟩ := h.check
  let e : CaseEntry := ⟨name, program, args, check, exit, onlyOn⟩
  refine ⟨e, ?_, by cases program <;> rfl⟩
  have hdistinct := h.keys.distinct
  -- the keys that are given overlay the blank entry, and the others agree with it already
  have hall : (members.map (·.1)).foldl (fun acc key => e.overlay key acc) CaseEntry.record.blank =
      e := by
    apply CaseEntry.ext
    · exact foldl_overlay "name" (fun _ _ => rfl)
        fun hkey => absurd (List.mem_map_of_mem h.name) hkey
    · exact foldl_overlay "program" (fun _ _ => rfl) fun hkey => (hprogram.eq_none hkey).symm
    · exact foldl_overlay "args" (fun _ _ => rfl) fun hkey => (hargs.eq_default hkey).symm
    · exact foldl_overlay "check" (fun _ _ => rfl) fun hkey => (hcheck.eq_none hkey).symm
    · exact foldl_overlay "exit" (fun _ _ => rfl) fun hkey => (h.exit.eq_default hkey).symm
    · exact foldl_overlay "only_on" (fun _ _ => rfl) fun hkey => (h.onlyOn.eq_none hkey).symm
  rw [← hall]
  refine Record.reads e.overlay h.keys ?_
  rintro ⟨key, v⟩ hv
  have hkey := h.keys.known key (List.mem_map_of_mem hv)
  simp only [List.mem_cons, List.not_mem_nil, or_false] at hkey
  rcases hkey with rfl | rfl | rfl | rfl | rfl | rfl <;> refine ⟨_, rfl, fun acc => ?_⟩
  · obtain rfl := value_unique hdistinct hv h.name
    exact (Reading.reads_text name).map fun v => { acc with name := v }
  · exact (hprogram.reads hdistinct TextForm.reads hv).map fun v => { acc with program := v }
  · exact (hargs.reads hdistinct TextsForm.reads hv).map fun v => { acc with args := v }
  · exact (hcheck.reads hdistinct CheckForm.reads hv).map fun v => { acc with check := v }
  · exact (h.exit.reads hdistinct ExitForm.reads hv).map fun v => { acc with exit := v }
  · exact (h.onlyOn.reads hdistinct PlatformForm.reads hv).map fun v => { acc with onlyOn := v }

theorem Case.Describes.exists_entries {p : Placeholders} {items : List (List (String × Value))}
    {cases : List Case} (h : List.Forall₂ (Case.Describes p) items cases) :
    ∃ entries, List.Forall₂ CaseEntry.record.read.Reads (items.map .object) entries ∧
      entries.map (Manifest.runnable p) = cases := by
  induction h with
  | nil => exact ⟨[], .nil, rfl⟩
  | cons hcase _ ih =>
    obtain ⟨e, hread, hrunnable⟩ := hcase.reads
    obtain ⟨entries, hreads, hrunnables⟩ := ih
    exact ⟨e :: entries, .cons hread hreads, by rw [List.map_cons, hrunnable, hrunnables]⟩

/-! ### Manifests -/

namespace Manifest

def overlay (m : Manifest) (key : String) (acc : Manifest) : Manifest where
  sourceRoot := if key = "src_root" then m.sourceRoot else acc.sourceRoot
  cases := if key = "cases" then m.cases else acc.cases

/-- What an object says of the cases of a manifest in the directory `base`: one case for each object
of its list, in order. -/
structure Describes (base executable : String) (members : List (String × Value))
    (cases : List Case) : Prop where
  keys : WellKeyed ["src_root", "cases"] ["cases"] (members.map (·.1))
  each : ∃ root items, Optional members "src_root" TextForm root ∧
    ("cases", .array (items.map .object)) ∈ members ∧
    List.Forall₂ (Case.Describes ⟨root.elim base (Path.join base), executable⟩) items cases

/-- The keys of a manifest or of one of its cases are not what they have to be: one is unknown, or
comes twice, or the cases or a name are not given. -/
inductive IllKeyed (members : List (String × Value)) : Prop
  | manifest (h : ¬WellKeyed ["src_root", "cases"] ["cases"] (members.map (·.1)))
  | case {items : List Value} {item : List (String × Value)}
      (hitems : ("cases", .array items) ∈ members) (hitem : .object item ∈ items)
      (h : ¬WellKeyed ["name", "program", "args", "check", "exit", "only_on"] ["name"]
        (item.map (·.1)))

/-- A document that describes cases is read as a manifest that has them. -/
theorem Describes.reads {base executable : String} {members : List (String × Value)}
    {cases : List Case} (h : Describes base executable members cases) :
    ∃ m, Decoder.Reads Manifest.record.read (.object members) m ∧
      m.toCases base executable = cases := by
  have hkeys := h.keys
  have hdistinct := hkeys.distinct
  obtain ⟨root, items, hroot, hitems, hcases⟩ := h.each
  obtain ⟨entries, hreads, rfl⟩ := Case.Describes.exists_entries hcases
  let m : Manifest := ⟨root, entries⟩
  refine ⟨m, ?_, by cases root <;> rfl⟩
  -- reading goes over the keys in their order; each takes over its own component
  have hall : (members.map (·.1)).foldl (fun acc key => m.overlay key acc) Manifest.record.blank =
      m := by
    apply Manifest.ext
    · exact foldl_overlay "src_root" (fun _ _ => rfl) fun hkey => (hroot.eq_none hkey).symm
    · exact foldl_overlay "cases" (fun _ _ => rfl)
        fun hkey => absurd (List.mem_map_of_mem hitems) hkey
  rw [← hall]
  refine Record.reads m.overlay hkeys ?_
  rintro ⟨key, v⟩ hv
  have hkey := hkeys.known key (List.mem_map_of_mem hv)
  simp only [List.mem_cons, List.not_mem_nil, or_false] at hkey
  rcases hkey with rfl | rfl <;> refine ⟨_, rfl, fun acc => ?_⟩
  · exact (hroot.reads hdistinct TextForm.reads hv).map fun v => { acc with sourceRoot := v }
  · obtain rfl := value_unique hdistinct hv hitems
    exact (Decoder.Reads.list hreads).map fun v => { acc with cases := v }

/-- One wrong set of keys, of the manifest or of any case, and nothing is read. -/
theorem IllKeyed.not_read {members : List (String × Value)} (h : IllKeyed members)
    {r : Reading} (hr : r.Regular) (hv : r.value = .ok (.object members)) (m : Manifest) :
    Manifest.record.read r ≠ .ok m := by
  intro hread
  obtain ⟨hkeys, heach⟩ := Record.wellKeyed_of_read hr hv hread
  cases h with
  | manifest h => exact h hkeys
  | case hitems hitem h =>
    obtain ⟨field, acc, acc', value, hfield, hregular, hvalue, hok⟩ := heach _ hitems
    obtain rfl := Option.some.inj hfield
    -- the cases have been read as a list of entries, and so has the one with the wrong keys
    obtain ⟨entries, hlist, -⟩ := map_eq_ok_iff.mp hok
    obtain ⟨item, e, hitemRegular, hitemValue, hitemRead⟩ :=
      Decoder.read_of_list hregular hvalue hlist _ hitem
    exact h (Record.wellKeyed_of_read hitemRegular hitemValue hitemRead).1

/-- A text whose value describes cases is parsed as them, and one with a key that is unknown,
repeated or missing is not parsed at all. -/
theorem toCases_of_document (text : String) (members : List (String × Value))
    (h : Json.decode Reading.value text = .ok (.object members)) (base executable : String) :
    (∀ cases, Describes base executable members cases →
      (ofText? text).map (·.toCases base executable) = .ok cases) ∧
    (IllKeyed members →
      ∃ fault, (ofText? text).map (·.toCases base executable) = .error fault) := by
  have hregular := Json.Document.regular_ofText text
  -- both readers see the same document, and nothing follows its value
  obtain ⟨v, hvalue, hend⟩ := bind_eq_ok_iff.mp h
  obtain ⟨htrailing, rfl⟩ := Json.barring_eq_ok_iff.mp hend
  refine ⟨fun cases hcases => ?_, fun hill => ?_⟩
  · obtain ⟨m, hread, rfl⟩ := hcases.reads
    have hroot := hread (Json.Document.ofText text).root hregular hvalue
    have hparse : ofText? text = .ok m :=
      bind_eq_ok_iff.mpr ⟨m, hroot, Json.barring_eq_ok_iff.mpr ⟨htrailing, rfl⟩⟩
    rw [hparse]
    rfl
  · cases hparse : ofText? text with
    | error fault => exact ⟨fault, rfl⟩
    | ok m =>
      obtain ⟨m', hread, -⟩ := bind_eq_ok_iff.mp hparse
      exact absurd hread (hill.not_read hregular hvalue m')

/-! ### A manifest with two cases, and one with an unknown key -/

def sampleItems : List (List (String × Value)) := [
  [("exit", .integer 1), ("args", .array [.text "\x7bsrc\x7d/bad", .text "\x7bexe\x7d"]),
    ("name", .text "missing"), ("check", .object [("contains", .text "\x7bsrc\x7d")])],
  [("name", .text "layout"), ("check", .null), ("only_on", .text "unix"),
    ("program", .text "\x7bsrc\x7d/main")]]

def sample : List (String × Value) :=
  [("cases", .array (sampleItems.map .object)), ("src_root", .text "src")]

def sampleCases : List Case := [
  { name := "missing", args := ["e2e/src/bad", "/bin/adept"],
    check := .contains (Text.utf8 "\x7bsrc\x7d"), exit := .code 1 },
  { name := "layout", program := .path "e2e/src/main", onlyOn := some .unix }]

def misspelt : List (String × Value) :=
  [("cases", .array [.object [("name", .text "x"), ("expected_exitcode", .integer 1)]])]

theorem decode_sample :
    Json.decode Reading.value ((Value.object sample).print ++ "") = .ok (.object sample) := by
  have hargs : Json.Printable 124 (.array [.text "\x7bsrc\x7d/bad", .text "\x7bexe\x7d"]) := by
    refine .array ?_
    simp only [List.forall_mem_cons]
    exact ⟨.text _, .text _, List.forall_mem_nil _⟩
  have hitems : ∀ item ∈ sampleItems, Json.Printable 125 (.object item) := by
    simp only [sampleItems, List.forall_mem_cons]
    refine ⟨.object ?_, .object ?_, List.forall_mem_nil _⟩
    · simp only [List.forall_mem_cons]
      exact ⟨.integer (by decide) (by decide), hargs, .text _,
        .object (List.forall_mem_singleton.mpr (.text _)), List.forall_mem_nil _⟩
    · simp only [List.forall_mem_cons]
      exact ⟨.text _, .null, .text _, .text _, List.forall_mem_nil _⟩
  refine Json.decode_print (.object (List.forall_mem_cons.mpr ⟨.array ?_, ?_⟩)) nofun
  · exact List.forall_mem_map.mpr hitems
  · exact List.forall_mem_singleton.mpr (.text _)

theorem decode_misspelt :
    Json.decode Reading.value ((Value.object misspelt).print ++ "") = .ok (.object misspelt) := by
  refine Json.decode_print (.object (List.forall_mem_singleton.mpr (.array ?_))) nofun
  refine List.forall_mem_singleton.mpr (.object ?_)
  simp only [List.forall_mem_cons]
  exact ⟨.text _, .integer (by decide) (by decide), List.forall_mem_nil _⟩

theorem describes_sample : Describes "e2e" "/bin/adept" sample sampleCases := by
  have hroot : Path.join "e2e" "src" = "e2e/src" := by decide
  have hbad : Placeholders.expand ⟨"e2e/src", "/bin/adept"⟩ "\x7bsrc\x7d/bad" = "e2e/src/bad" := by
    simp [Placeholders.expand, Text.replace, Text.replaceChars]
  have hexe : Placeholders.expand ⟨"e2e/src", "/bin/adept"⟩ "\x7bexe\x7d" = "/bin/adept" := by
    simp [Placeholders.expand, Text.replace, Text.replaceChars]
  have hmain : Placeholders.expand ⟨"e2e/src", "/bin/adept"⟩ "\x7bsrc\x7d/main" =
      "e2e/src/main" := by
    simp [Placeholders.expand, Text.replace, Text.replaceChars]
  refine ⟨⟨by decide, by decide, by decide⟩, some "src", sampleItems,
    .given (.tail _ (.head _)) rfl, .head _, ?_⟩
  rw [Option.elim_some, hroot]
  refine .cons ?_ (.cons ?_ .nil)
  · exact {
      keys := ⟨by decide, by decide, by decide⟩
      name := .tail _ (.tail _ (.head _))
      program := ⟨none, .absent (by decide), rfl⟩
      args := by
        refine ⟨["\x7bsrc\x7d/bad", "\x7bexe\x7d"], .given (.tail _ (.head _)) rfl, ?_⟩
        rw [List.map_cons, List.map_singleton, hbad, hexe]
      check := ⟨_, .given (.tail _ (.tail _ (.tail _ (.head _)))) (.contains _), rfl⟩
      exit := .given (.head _) (.code (by decide) (by decide))
      onlyOn := .absent (by decide) }
  · exact {
      keys := ⟨by decide, by decide, by decide⟩
      name := .head _
      program := by
        refine ⟨some "\x7bsrc\x7d/main", .given (.tail _ (.tail _ (.tail _ (.head _)))) rfl, ?_⟩
        rw [Option.elim_some, hmain]
      args := ⟨[], .absent (by decide), rfl⟩
      check := ⟨none, .null (.tail _ (.head _)), rfl⟩
      exit := .absent (by decide)
      onlyOn := .given (.tail _ (.tail _ (.head _))) (.unix (.inl rfl)) }

theorem illKeyed_misspelt : IllKeyed misspelt := by
  refine .case (.head _) (.head _) fun h => ?_
  exact absurd (h.known "expected_exitcode" (by decide)) (by decide)

theorem toCases_of_sample :
    (ofText? ((Value.object sample).print ++ "")).map (·.toCases "e2e" "/bin/adept") =
      .ok sampleCases ∧
    ∃ fault, (ofText? ((Value.object misspelt).print ++ "")).map (·.toCases "e2e" "/bin/adept") =
      .error fault := by
  constructor
  · exact (toCases_of_document _ sample decode_sample "e2e" "/bin/adept").1 _ describes_sample
  · exact (toCases_of_document _ misspelt decode_misspelt "e2e" "/bin/adept").2 illKeyed_misspelt

end Manifest

end Lexicon.Conformance
