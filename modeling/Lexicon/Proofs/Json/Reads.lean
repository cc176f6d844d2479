import Mathlib.Data.List.Nodup
import Lexicon.Proofs.Json.Regular
import Lexicon.Proofs.Fallible

namespace Lexicon.Json

/-- A reader takes all readings of a value to one result. -/
def Decoder.Reads {α : Type} (read : Decoder α) (v : Value) (a : α) : Prop :=
  ∀ r : Reading, r.Regular → r.value = .ok v → read r = .ok a

open Fallible

theorem barring_eq_ok_iff {α : Type} {fault : Option Fault} {a b : α} :
    Reading.barring fault a = .ok b ↔ fault = none ∧ a = b := by
  cases fault with
  | none => exact ⟨fun h => ⟨rfl, Except.ok.inj h⟩, fun h => congrArg _ h.2⟩
  | some f => exact ⟨nofun, nofun⟩

namespace Reading

/-! ### What has a value -/

theorem itemValues_eq_mapM (items : List (Reading × Ending)) :
    itemValues items = items.mapM fun item => item.1.value := by
  induction items with
  | nil => rfl
  | cons item items ih => rw [itemValues, ih, List.mapM_cons]

def Spells (m : Member) (kv : String × Value) : Prop := m.1.1 = kv.1 ∧ m.2.1.value = .ok kv.2

theorem memberValues_eq_ok_iff {members : List Member} {vs : List (String × Value)} :
    memberValues members = .ok vs ↔ List.Forall₂ Spells members vs := by
  induction members generalizing vs with
  | nil =>
    rw [memberValues, List.forall₂_nil_left_iff]
    exact ⟨fun h => (Except.ok.inj h).symm, fun h => h ▸ rfl⟩
  | cons m members ih =>
    simp only [memberValues, bind_eq_ok_iff, ih, List.forall₂_cons_left_iff]
    constructor
    · rintro ⟨v, hv, rest, hrest, h⟩
      cases h
      exact ⟨_, rest, ⟨rfl, hv⟩, hrest, rfl⟩
    · rintro ⟨kv, rest, ⟨hkey, hv⟩, hrest, rfl⟩
      exact ⟨kv.2, hv, rest, hrest, by rw [hkey]; rfl⟩

theorem value_array_eq_ok_iff {token : Token} {opening : Ending} {items : List (Reading × Ending)}
    {fault : Option Fault} {v : Value} :
    value (.array token opening items fault) = .ok v ↔
      ∃ vs, List.Forall₂ (fun item v => item.1.value = .ok v) items vs ∧ fault = none ∧
        .array vs = v := by
  rw [value, itemValues_eq_mapM]
  simp only [bind_eq_ok_iff, mapM_eq_ok_iff, barring_eq_ok_iff]

theorem value_object_eq_ok_iff {token : Token} {opening : Ending} {first : Option Token}
    {members : List Member} {fault : Option Fault} {v : Value} :
    value (.object token opening first members fault) = .ok v ↔
      ∃ vs, List.Forall₂ Spells members vs ∧ fault = none ∧ .object vs = v := by
  rw [value]
  simp only [bind_eq_ok_iff, memberValues_eq_ok_iff, barring_eq_ok_iff]

variable {r : Reading}

theorem eq_leaf_of_value {v : Value} (hbare : v.Bare) (hv : r.value = .ok v) :
    ∃ token, r = .leaf v token := by
  -- lists and objects have values with brackets, and what is broken has none
  cases r with
  | leaf v' token =>
    cases hv
    exact ⟨token, rfl⟩
  | array token opening items fault =>
    obtain ⟨vs, -, -, rfl⟩ := value_array_eq_ok_iff.mp hv
    exact hbare.elim
  | object token opening first members fault =>
    obtain ⟨vs, -, -, rfl⟩ := value_object_eq_ok_iff.mp hv
    exact hbare.elim
  | broken fault token => exact nomatch hv

/-- A reading with a list for its value is a list that was closed. -/
theorem Regular.eq_array (h : r.Regular) {vs : List Value} (hv : r.value = .ok (.array vs)) :
    ∃ token opening items, r = .array token opening items none ∧
      (∀ item ∈ items, item.1.Regular) ∧
      List.Forall₂ (fun item v => item.1.value = .ok v) items vs := by
  cases h with
  | leaf bare token =>
    cases hv
    exact bare.elim
  | broken fault token => exact nomatch hv
  | array items_regular =>
    obtain ⟨vs', hitems, rfl, hvs⟩ := value_array_eq_ok_iff.mp hv
    cases hvs
    exact ⟨_, _, _, rfl, items_regular, hitems⟩
  | object =>
    obtain ⟨_, _, _, hvs⟩ := value_object_eq_ok_iff.mp hv
    exact nomatch hvs

/-- A reading with an object for its value is an object that was closed. -/
theorem Regular.eq_object (h : r.Regular) {vs : List (String × Value)}
    (hv : r.value = .ok (.object vs)) :
    ∃ token opening first members, r = .object token opening first members none ∧
      (∀ m ∈ members, m.2.1.Regular) ∧ (members ≠ [] → first.isSome) ∧
      (∀ m ∈ members.getLast?, m.2.2.fault = none) ∧ List.Forall₂ Spells members vs := by
  cases h with
  | leaf bare token =>
    cases hv
    exact bare.elim
  | broken fault token => exact nomatch hv
  | array =>
    obtain ⟨_, _, _, hvs⟩ := value_array_eq_ok_iff.mp hv
    exact nomatch hvs
  | object members_regular first_some last_closes =>
    obtain ⟨vs', hmembers, rfl, hvs⟩ := value_object_eq_ok_iff.mp hv
    cases hvs
    exact ⟨_, _, _, _, rfl, members_regular, first_some rfl, last_closes rfl, hmembers⟩

/-! ### Texts, options and lists -/

theorem reads_text (s : String) : Decoder.Reads text (.text s) s := by
  intro r _ hv
  obtain ⟨token, rfl⟩ := eq_leaf_of_value (v := .text s) trivial hv
  rfl

theorem reads_optional_null {α : Type} (read : Decoder α) :
    Decoder.Reads (optional read) .null none := by
  intro r _ hv
  obtain ⟨token, rfl⟩ := eq_leaf_of_value (v := .null) trivial hv
  rfl

end Reading

namespace Decoder

variable {α : Type} {read : Decoder α}

theorem Reads.optional {v : Value} {a : α} (h : read.Reads v a) (hne : v ≠ .null) :
    Reads (Reading.optional read) v (some a) := by
  intro r hr hv
  unfold Reading.optional
  split
  · cases hv
    exact absurd rfl hne
  · exact nomatch hv
  · rw [h r hr hv]
    rfl

theorem Reads.map {β : Type} {v : Value} {a : α} (h : read.Reads v a) (f : α → β) :
    Reads (fun r => (read r).map f) v (f a) := by
  intro r hr hv
  change (read r).map f = _
  rw [h r hr hv]
  rfl

/-- A list is read item by item. -/
theorem Reads.list {vs : List Value} {as : List α} (h : List.Forall₂ read.Reads vs as) :
    Reads (Reading.list read) (.array vs) as := by
  intro r hr hv
  obtain ⟨token, opening, items, rfl, hregular, hitems⟩ := hr.eq_array hv
  -- item by item, along their values and what these are read as
  have hread : items.mapM (fun item => read item.1) = .ok as := by
    refine mapM_eq_ok_iff.mpr ?_
    clear hv hr
    induction hitems generalizing as with
    | nil =>
      cases h
      exact .nil
    | cons hitem _ ih =>
      obtain ⟨hregularItem, hregularItems⟩ := List.forall_mem_cons.mp hregular
      cases h with
      | cons ha has => exact .cons (ha _ hregularItem hitem) (ih has hregularItems)
  exact bind_eq_ok_iff.mpr ⟨as, hread, rfl⟩

/-- Of a list that has been read, each item has been read. -/
theorem read_of_list {r : Reading} (hr : r.Regular) {vs : List Value}
    (hv : r.value = .ok (.array vs)) {as : List α} (h : Reading.list read r = .ok as) :
    ∀ v ∈ vs, ∃ (item : Reading) (a : α), item.Regular ∧ item.value = .ok v ∧
      read item = .ok a := by
  obtain ⟨token, opening, items, rfl, hregular, hitems⟩ := hr.eq_array hv
  obtain ⟨as', hread, -⟩ := bind_eq_ok_iff.mp h
  intro v hmem
  obtain ⟨item, hitem, hvalue⟩ := exists_mem_of_forall₂ hitems.flip hmem
  obtain ⟨a, -, ha⟩ := exists_mem_of_forall₂ (mapM_eq_ok_iff.mp hread) hitem
  exact ⟨item.1, a, hregular item hitem, hvalue, ha⟩

end Decoder

/-! ### Variants -/

namespace Variant

variable {α : Type} {variants : List (Variant α)} {key : String}

theorem reads_bare {name : String} {a : α}
    (h : variants.find? (·.name == key) = some (.bare name a)) :
    Decoder.Reads (read variants) (.text key) a := by
  intro r _ hv
  obtain ⟨token, rfl⟩ := Reading.eq_leaf_of_value (v := .text key) trivial hv
  have hnamed : named variants key token.stop = .ok (.bare name a) := by rw [named, h]
  exact bind_eq_ok_iff.mpr ⟨_, hnamed, rfl⟩

/-- The only key of an object names a variant, and its value is the payload. -/
theorem reads_keyed {variant : Variant α} (h : variants.find? (·.name == key) = some variant)
    {v : Value} {a : α} (hpayload : Decoder.Reads (variant.payload ·) v a) :
    Decoder.Reads (read variants) (.object [(key, v)]) a := by
  intro r hr hv
  obtain ⟨token, opening, first, members, rfl, hregular, hfirst, hlast, hmembers⟩ :=
    hr.eq_object hv
  obtain ⟨⟨⟨key', behindKey⟩, payload, behind⟩, members, ⟨hkey, hvalue⟩, hnone, rfl⟩ :=
    List.forall₂_cons_right_iff.mp hmembers
  obtain rfl := List.forall₂_nil_right_iff.mp hnone
  obtain rfl : key' = key := hkey
  obtain ⟨first, rfl⟩ := Option.isSome_iff_exists.mp (hfirst (List.cons_ne_nil _ _))
  -- the only member is the last one, so the bracket could be closed behind it
  have hclosed : behind.fault = none := hlast _ rfl
  have hnamed : named variants key' first.stop = .ok variant := by rw [named, h]
  have hread : variant.payload payload = .ok a :=
    hpayload payload (hregular _ (List.mem_singleton_self _)) hvalue
  refine bind_eq_ok_iff.mpr ⟨variant, hnamed, bind_eq_ok_iff.mpr ⟨a, hread, ?_⟩⟩
  exact barring_eq_ok_iff.mpr ⟨hclosed, rfl⟩

theorem reads_payload_null (name : String) (a : α) :
    Decoder.Reads ((bare name a).payload ·) .null a := by
  intro r _ hv
  obtain ⟨token, rfl⟩ := Reading.eq_leaf_of_value (v := .null) trivial hv
  rfl

end Variant

/-! ### Records -/

/-- Keys that an object may have together, if some of the known ones have to be given. -/
structure WellKeyed (known required keys : List String) : Prop where
  known : ∀ key ∈ keys, key ∈ known
  distinct : keys.Nodup
  given : ∀ key ∈ required, key ∈ keys

namespace Record

variable {σ : Type} (r : Record σ)

def requiredNames : List String := (r.fields.filter (·.required)).map (·.name)

variable {r}

/-- One more member is read exactly if its key is known and new and its value can be read. -/
theorem readMembers_cons_eq_ok_iff {key : String} {behindKey : Ending} {value : Reading}
    {behind : Ending} {rest : List Member} {seen : List String} {acc : σ} {out : σ × List String} :
    r.readMembers seen acc (((key, behindKey), value, behind) :: rest) = .ok out ↔
      ∃ field acc', r.fields.find? (·.name == key) = some field ∧ key ∉ seen ∧
        field.read value acc = .ok acc' ∧ r.readMembers (key :: seen) acc' rest = .ok out := by
  rw [readMembers]
  cases hfind : r.fields.find? (·.name == key) with
  | none => exact ⟨nofun, nofun⟩
  | some field =>
    dsimp only
    by_cases hseen : key ∈ seen
    · rw [if_pos (List.contains_iff_mem.mpr hseen)]
      exact ⟨nofun, fun ⟨_, _, _, hnew, _⟩ => absurd hseen hnew⟩
    · rw [if_neg (mt List.contains_iff_mem.mp hseen)]
      cases hread : field.read value acc with
      | error fault =>
        refine ⟨nofun, ?_⟩
        rintro ⟨field', acc', hfield, -, hok, -⟩
        obtain rfl := Option.some.inj hfield
        exact nomatch hread.symm.trans hok
      | ok acc' =>
        constructor
        · exact fun h => ⟨field, acc', rfl, hseen, hread, h⟩
        · rintro ⟨field', acc'', hfield, -, hok, h⟩
          obtain rfl := Option.some.inj hfield
          obtain rfl := Except.ok.inj (hread.symm.trans hok)
          exact h

/-- A record is read exactly if all members are, and none that has to be given is missing. -/
theorem read_object_eq_ok_iff {token : Token} {opening : Ending} {first : Option Token}
    {members : List Member} {a : σ} :
    r.read (.object token opening first members none) = .ok a ↔
      ∃ seen, r.readMembers [] r.blank members = .ok (a, seen) ∧
        ∀ name ∈ r.requiredNames, name ∈ seen := by
  -- a search for a missing field finds none exactly if all have been seen
  have hmissing (seen : List String) :
      r.fields.find? (fun field => field.required && !seen.contains field.name) = none ↔
        ∀ name ∈ r.requiredNames, name ∈ seen := by
    rw [requiredNames, List.forall_mem_map, List.forall_mem_filter]
    simp
  simp only [read, bind_eq_ok_iff, barring_eq_ok_iff, true_and, ← hmissing]
  constructor
  · rintro ⟨⟨acc, seen⟩, hread, acc', rfl, h⟩
    dsimp only at h
    split at h
    · exact nomatch h
    · cases h
      exact ⟨seen, hread, ‹_›⟩
  · rintro ⟨seen, hread, hnone⟩
    exact ⟨(a, seen), hread, a, rfl, by rw [hnone]⟩

/-- Members that have all been read have distinct keys, and each has been read as a field. -/
theorem of_readMembers {members : List Member} {seen : List String} (hseen : seen.Nodup) {acc : σ}
    {out : σ × List String} (h : r.readMembers seen acc members = .ok out) :
    out.2 = (members.map (·.1.1)).reverse ++ seen ∧ out.2.Nodup ∧
      ∀ m ∈ members, ∃ field acc acc', r.fields.find? (·.name == m.1.1) = some field ∧
        field.read m.2.1 acc = .ok acc' := by
  induction members generalizing seen acc with
  | nil =>
    obtain rfl := Except.ok.inj h
    exact ⟨rfl, hseen, List.forall_mem_nil _⟩
  | cons m members ih =>
    obtain ⟨⟨key, behindKey⟩, value, behind⟩ := m
    obtain ⟨field, acc', hfield, hnew, hread, hrest⟩ := readMembers_cons_eq_ok_iff.mp h
    obtain ⟨hout, hnodup, heach⟩ := ih (List.nodup_cons.mpr ⟨hnew, hseen⟩) hrest
    refine ⟨?_, hnodup, List.forall_mem_cons.mpr ⟨⟨field, acc, acc', hfield, hread⟩, heach⟩⟩
    rw [hout, List.map_cons, List.reverse_cons, List.append_assoc, List.singleton_append]

/-- If each member, read as its field, takes the record to `assign key`, then all of them together
take it there one after the other. -/
theorem readMembers_eq_foldl {assign : String → σ → σ} {members : List Member}
    (h : ∀ m ∈ members, ∃ field, r.fields.find? (·.name == m.1.1) = some field ∧
      ∀ acc, field.read m.2.1 acc = .ok (assign m.1.1 acc)) {seen : List String}
    (hnodup : ((members.map (·.1.1)).reverse ++ seen).Nodup) (acc : σ) :
    r.readMembers seen acc members =
      .ok ((members.map (·.1.1)).foldl (fun acc key => assign key acc) acc,
        (members.map (·.1.1)).reverse ++ seen) := by
  induction members generalizing seen acc with
  | nil => rfl
  | cons m members ih =>
    obtain ⟨⟨key, behindKey⟩, value, behind⟩ := m
    obtain ⟨⟨field, hfield, hread⟩, hmembers⟩ := List.forall_mem_cons.mp h
    rw [List.map_cons, List.reverse_cons, List.append_assoc, List.singleton_append] at hnodup
    have hnew : key ∉ seen := (List.nodup_cons.mp (List.Nodup.of_append_right hnodup)).1
    refine readMembers_cons_eq_ok_iff.mpr ⟨field, assign key acc, hfield, hnew, hread acc, ?_⟩
    rw [ih hmembers hnodup, List.map_cons, List.foldl_cons, List.reverse_cons, List.append_assoc,
      List.singleton_append]

theorem keys_eq {members : List Member} {vs : List (String × Value)}
    (h : List.Forall₂ Reading.Spells members vs) : members.map (·.1.1) = vs.map (·.1) := by
  induction h with
  | nil => rfl
  | cons hm _ ih => rw [List.map_cons, List.map_cons, hm.1, ih]

/-- An object is read as a record, whatever the order of its members. -/
theorem reads (assign : String → σ → σ) {members : List (String × Value)}
    (hkeys : WellKeyed r.fieldNames r.requiredNames (members.map (·.1)))
    (h : ∀ m ∈ members, ∃ field, r.fields.find? (·.name == m.1) = some field ∧
      ∀ acc, Decoder.Reads (field.read · acc) m.2 (assign m.1 acc)) :
    Decoder.Reads r.read (.object members)
      ((members.map (·.1)).foldl (fun acc key => assign key acc) r.blank) := by
  intro reading hreading hv
  obtain ⟨token, opening, first, given, rfl, hregular, -, -, hspells⟩ := hreading.eq_object hv
  have hgiven := keys_eq hspells
  -- each given member has a field that can read it
  have hfields : ∀ m ∈ given, ∃ field, r.fields.find? (·.name == m.1.1) = some field ∧
      ∀ acc, field.read m.2.1 acc = .ok (assign m.1.1 acc) := by
    intro m hm
    obtain ⟨kv, hkv, hkey, hvalue⟩ := exists_mem_of_forall₂ hspells hm
    obtain ⟨field, hfield, hread⟩ := h kv hkv
    rw [hkey]
    exact ⟨field, hfield, fun acc => hread acc m.2.1 (hregular m hm) hvalue⟩
  -- the keys are collected in reverse
  have hnodup : ((given.map fun m : Member => m.1.1).reverse ++ []).Nodup := by
    rw [List.append_nil, List.nodup_reverse, hgiven]
    exact hkeys.distinct
  rw [← hgiven]
  refine read_object_eq_ok_iff.mpr ⟨_, readMembers_eq_foldl hfields hnodup _, ?_⟩
  intro name hname
  rw [List.append_nil, List.mem_reverse, hgiven]
  exact hkeys.given name hname

/-- What has been read as a record is an object with the keys of its fields, and the value of each
key has been read as its field. -/
theorem wellKeyed_of_read {reading : Reading} (hreading : reading.Regular)
    {members : List (String × Value)} (hv : reading.value = .ok (.object members)) {a : σ}
    (h : r.read reading = .ok a) :
    WellKeyed r.fieldNames r.requiredNames (members.map (·.1)) ∧
      ∀ kv ∈ members, ∃ field acc acc', ∃ value : Reading,
        r.fields.find? (·.name == kv.1) = some field ∧ value.Regular ∧ value.value = .ok kv.2 ∧
          field.read value acc = .ok acc' := by
  obtain ⟨token, opening, first, given, rfl, hregular, -, -, hspells⟩ := hreading.eq_object hv
  obtain ⟨seen, hread, hgiven⟩ := read_object_eq_ok_iff.mp h
  obtain ⟨hseen, hnodup, heach⟩ := of_readMembers List.nodup_nil hread
  dsimp only at hseen hnodup
  rw [List.append_nil, keys_eq hspells] at hseen
  subst hseen
  -- whatever is asked of the members, the member that spells a key and its value answers
  have hmembers : ∀ kv ∈ members, ∃ field acc acc', ∃ value : Reading,
      r.fields.find? (·.name == kv.1) = some field ∧ value.Regular ∧ value.value = .ok kv.2 ∧
        field.read value acc = .ok acc' := by
    intro kv hkv
    obtain ⟨m, hm, hkey, hvalue⟩ := exists_mem_of_forall₂ hspells.flip hkv
    obtain ⟨field, acc, acc', hfield, hok⟩ := heach m hm
    exact ⟨field, acc, acc', m.2.1, hkey ▸ hfield, hregular m hm, hvalue, hok⟩
  refine ⟨⟨?_, List.nodup_reverse.mp hnodup, fun name hname => ?_⟩, hmembers⟩
  · refine List.forall_mem_map.mpr fun kv hkv => ?_
    obtain ⟨field, -, -, -, hfield, -⟩ := hmembers kv hkv
    have hname := List.find?_some hfield
    exact beq_iff_eq.mp hname ▸ List.mem_map_of_mem (List.mem_of_find?_eq_some hfield)
  · exact List.mem_reverse.mp (hgiven name hname)

end Record

end Lexicon.Json
