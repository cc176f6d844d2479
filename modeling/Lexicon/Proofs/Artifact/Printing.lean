import Mathlib.Tactic.SplitIfs
import Lexicon.Artifact.Sink

namespace Lexicon.Artifact

namespace Sink

def Takes (s : Sink) (text : String) : Prop := ∀ room, s.room = some room → text.toByteArray.size ≤ room

/-- The sink behind a text, of which it has taken as much as it has room for. -/
def after (s : Sink) (text : String) : Sink :=
  match s.room with
  | none => { s with taken := s.taken ++ text.toByteArray }
  | some room => ⟨s.taken ++ text.toByteArray.extract 0 room, some (room - text.toByteArray.size)⟩

variable {s : Sink} {text rest : String}

theorem after_empty : s.after "" = s := by
  obtain ⟨taken, room⟩ := s
  have hempty : "".toByteArray = ByteArray.empty := rfl
  cases room with
  | none => simp only [after, hempty, ByteArray.append_empty]
  | some room =>
    have hextract : ByteArray.empty.extract 0 room = ByteArray.empty := by
      rw [ByteArray.extract_eq_empty_iff, ByteArray.size_empty]
      omega
    simp only [after, hempty, hextract, ByteArray.append_empty, ByteArray.size_empty, Nat.sub_zero]

theorem takes_empty : s.Takes "" := fun _ _ => Nat.zero_le _

/-- There is room for two texts if there is room for the second where the first one has ended. -/
theorem takes_append_iff : s.Takes (text ++ rest) ↔ s.Takes text ∧ (s.after text).Takes rest := by
  obtain ⟨taken, room⟩ := s
  have hsize : (text ++ rest).toByteArray.size = text.toByteArray.size + rest.toByteArray.size := by
    rw [String.toByteArray_append, ByteArray.size_append]
  cases room with
  | none => exact iff_of_true nofun ⟨nofun, nofun⟩
  | some room =>
    -- sizes add up, and what the first text has taken is no longer there
    simp only [Takes, after, Option.some.injEq, forall_eq', hsize]
    omega

theorem after_append (h : s.Takes text) : s.after (text ++ rest) = (s.after text).after rest := by
  obtain ⟨taken, room⟩ := s
  cases room with
  | none => simp only [after, String.toByteArray_append, ByteArray.append_assoc]
  | some room =>
    have hroom : text.toByteArray.size ≤ room := h room rfl
    -- the whole first text is taken, and the rest has the room that is left
    simp only [after, String.toByteArray_append, ByteArray.extract_append, ByteArray.size_append,
      ByteArray.append_assoc, Nat.zero_sub, Nat.sub_sub]

/-- What a sink refuses is not made up for by what comes behind it. -/
theorem after_append_of_not_takes (h : ¬s.Takes text) : s.after (text ++ rest) = s.after text := by
  obtain ⟨taken, room⟩ := s
  cases room with
  | none => exact absurd nofun h
  | some room =>
    have hroom : room < text.toByteArray.size := by
      apply Nat.lt_of_not_le
      rintro hle
      exact h fun _ hsome => Option.some.inj hsome ▸ hle
    have hnone : rest.toByteArray.extract 0 0 = ByteArray.empty := by
      rw [ByteArray.extract_eq_empty_iff]
      omega
    have hleft : room - text.toByteArray.size = 0 := by omega
    simp only [after, String.toByteArray_append, ByteArray.extract_append, ByteArray.size_append,
      Nat.zero_sub, hleft, hnone, ByteArray.append_empty, ← Nat.sub_sub]

theorem after_limited_of_le {taken : ByteArray} {room : Nat} (h : text.toByteArray.size ≤ room) :
    after ⟨taken, some room⟩ text =
      ⟨taken ++ text.toByteArray, some (room - text.toByteArray.size)⟩ := by
  have hall : text.toByteArray.extract 0 room = text.toByteArray := by
    rw [← Nat.max_eq_left h, ByteArray.extract_zero_max_size]
  simp only [after, hall]

theorem after_limited_of_lt {taken : ByteArray} {room : Nat} (h : room < text.toByteArray.size) :
    after ⟨taken, some room⟩ text = ⟨taken ++ text.toByteArray.extract 0 room, some 0⟩ := by
  have hleft : room - text.toByteArray.size = 0 := by omega
  simp only [after, hleft]

end Sink

/-- Writing comes to a text, and then ends with a value or halts. A sink without room for the text has the beginning
of it and refuses the rest. -/
def Prints {α : Type} (p : Printing α) (text : String) (outcome : Option α) : Prop :=
  ∀ s : Sink, (s.Takes text → p s = (orHalt outcome, s.after text)) ∧
    (¬s.Takes text → p s = (.error (.failed .full), s.after text))

namespace Prints

variable {α β : Type} {p : Printing α} {f : α → Printing β} {text rest : String} {a : α}
variable {outcome : Option β}

theorem pure (a : α) : Prints (pure a) "" (some a) := by
  intro s
  rw [s.after_empty]
  exact ⟨fun _ => rfl, fun h => absurd s.takes_empty h⟩

theorem halt : Prints (throw .halted : Printing α) "" none := by
  intro s
  rw [s.after_empty]
  exact ⟨fun _ => rfl, fun h => absurd s.takes_empty h⟩

theorem orHalt (o : Option α) : Prints (orHalt o) "" o := by
  cases o with
  | none => exact halt
  | some a => exact pure a

theorem emit (text : String) : Prints (emit text) text (some ()) := by
  rintro ⟨taken, room⟩
  cases room with
  | none => exact ⟨fun _ => rfl, fun h => absurd nofun h⟩
  | some room =>
    have htakes : Sink.Takes ⟨taken, some room⟩ text ↔ text.toByteArray.size ≤ room :=
      ⟨fun h => h room rfl, fun h _ hroom => Option.some.inj hroom ▸ h⟩
    -- only a sink of limited room can refuse
    rw [htakes]
    constructor
    · intro hfits
      rw [Sink.after_limited_of_le hfits]
      exact if_pos hfits
    · intro hlong
      rw [Sink.after_limited_of_lt (Nat.lt_of_not_le hlong)]
      exact if_neg hlong

/-- One part after the other: what the first one writes stands in front. -/
theorem bind (hp : Prints p text (some a)) (hf : Prints (f a) rest outcome) :
    Prints (p >>= f) (text ++ rest) outcome := by
  intro s
  -- the second part sees the sink that the first one has left
  have hbind : (p >>= f) s = ExceptT.bindCont f (p s).1 (p s).2 := rfl
  by_cases h : s.Takes text
  · rw [Sink.takes_append_iff, and_iff_right h, Sink.after_append h, hbind, (hp s).1 h]
    exact hf (s.after text)
  · have hboth : ¬s.Takes (text ++ rest) := fun hboth => h (Sink.takes_append_iff.mp hboth).1
    refine ⟨fun hboth' => absurd hboth' hboth, fun _ => ?_⟩
    rw [Sink.after_append_of_not_takes h, hbind, (hp s).2 h]
    rfl

theorem seq {p : Printing Unit} {q : Printing β} (hp : Prints p text (some ()))
    (hq : Prints q rest outcome) : Prints (p >>= fun _ => q) (text ++ rest) outcome :=
  hp.bind hq

theorem bind_halt (hp : Prints p text none) : Prints (p >>= f) text none := by
  intro s
  have hbind : (p >>= f) s = ExceptT.bindCont f (p s).1 (p s).2 := rfl
  refine ⟨fun h => ?_, fun h => ?_⟩
  · rw [hbind, (hp s).1 h]
    rfl
  · rw [hbind, (hp s).2 h]
    rfl

/-- What does not halt leaves no trace in the text. -/
theorem orHalt_bind {o : Option α} (ho : o = some a) (hf : Prints (f a) rest outcome) :
    Prints (Lexicon.orHalt o >>= f) rest outcome := by
  have hprints := (orHalt (some a)).bind hf
  rw [String.empty_append] at hprints
  exact ho ▸ hprints

theorem forM {as : List α} {f : α → Printing Unit} {text : α → String}
    (h : ∀ a ∈ as, Prints (f a) (text a) (some ())) :
    Prints (as.forM f) (String.join (as.map text)) (some ()) := by
  induction as with
  | nil => exact pure ()
  | cons a as ih =>
    obtain ⟨ha, has⟩ := List.forall_mem_cons.mp h
    rw [List.map_cons, String.join_cons]
    exact ha.seq (ih has)

/-- A loop that halts has printed what comes before the halt. -/
theorem forM_halt {front : List α} {f : α → Printing Unit} {text : α → String} (rest : List α)
    (h : ∀ a ∈ front, Prints (f a) (text a) (some ())) (ha : Prints (f a) "" none) :
    Prints ((front ++ a :: rest).forM f) (String.join (front.map text)) none := by
  induction front with
  | nil => exact ha.bind_halt
  | cons b front ih =>
    obtain ⟨hb, hfront⟩ := List.forall_mem_cons.mp h
    rw [List.map_cons, String.join_cons]
    exact hb.seq (ih hfront)

end Prints

/-- The places at which a text is cut for writing do not matter. -/
theorem emit_append (text rest : String) :
    emit (text ++ rest) = (do emit text; emit rest) := by
  funext s
  have hwhole := Prints.emit (text ++ rest) s
  have hparts := (Prints.emit text).seq (Prints.emit rest) s
  by_cases h : s.Takes (text ++ rest)
  · exact (hwhole.1 h).trans (hparts.1 h).symm
  · exact (hwhole.2 h).trans (hparts.2 h).symm

namespace Prints

variable {p : Printing Unit} {text : String} {outcome : Option Unit}

theorem text? (h : Prints p text (some ())) : p.text? = some text := by
  have htext : String.fromUTF8? text.toByteArray = some text := by
    rw [String.fromUTF8?, dif_pos text.isValidUTF8]
    rfl
  have hrun : p.run.run .memory = (.ok (), Sink.memory.after text) := (h _).1 nofun
  rw [Printing.text?, hrun, Sink.after, Sink.memory]
  dsimp only
  rw [ByteArray.empty_append, htext]

theorem text?_halt (h : Prints p text none) : p.text? = none := by
  have hrun : p.run.run .memory = (.error .halted, Sink.memory.after text) := (h _).1 nofun
  rw [Printing.text?, hrun]

end Prints

/-- Whatever a sink has room for, it ends up with the beginning of what memory gets. The refusal is reported exactly if
something is missing; if nothing is, writing ends as it does in memory. -/
structure FillsInOrder (p : Printing Unit) : Prop where
  taken : ∀ room, (p (.limited room)).2.bytes = (p .memory).2.bytes.take room
  refused : ∀ room, (p (.limited room)).1 = .error (.failed .full) ↔
    room < (p .memory).2.bytes.length
  otherwise : ∀ room, (p .memory).2.bytes.length ≤ room → (p (.limited room)).1 = (p .memory).1

namespace Prints

variable {p : Printing Unit} {text : String} {outcome : Option Unit} (h : Prints p text outcome)
include h

theorem memory : p .memory = (Lexicon.orHalt outcome, Sink.memory.after text) := (h _).1 nofun

theorem bytes_memory : (p .memory).2.bytes = Text.utf8 text := by
  rw [h.memory]
  simp only [Sink.bytes, Sink.after, Sink.memory, ByteArray.empty_append, Text.utf8]

theorem bytes_limited (room : Nat) : (p (.limited room)).2.bytes = (Text.utf8 text).take room := by
  have hbytes : ((Sink.limited room).after text).bytes = (Text.utf8 text).take room := by
    simp only [Sink.bytes, Sink.after, Sink.limited, ByteArray.empty_append, Text.utf8]
    rw [ByteArray.data_extract, Array.toList_extract, List.extract_eq_take_drop]
    rfl
  by_cases htakes : (Sink.limited room).Takes text
  · rw [(h _).1 htakes, hbytes]
  · rw [(h _).2 htakes, hbytes]

theorem fst_limited (room : Nat) : (p (.limited room)).1 =
    if room < (Text.utf8 text).length then .error (.failed .full) else Lexicon.orHalt outcome := by
  have htakes : (Sink.limited room).Takes text ↔ (Text.utf8 text).length ≤ room :=
    ⟨fun htakes => htakes room rfl, fun hle _ hroom => Option.some.inj hroom ▸ hle⟩
  split_ifs with hroom
  · rw [(h _).2 (mt htakes.mp (Nat.not_le.mpr hroom))]
  · rw [(h _).1 (htakes.mpr (Nat.le_of_not_lt hroom))]

/-- A halt is met exactly if everything in front of it is taken. -/
theorem fst_eq_halted_iff (s : Sink) :
    (p s).1 = .error .halted ↔ outcome = none ∧ s.Takes text := by
  by_cases htakes : s.Takes text
  · rw [(h s).1 htakes, and_iff_left htakes]
    cases outcome with
    | none => exact iff_of_true rfl rfl
    | some _ => exact iff_of_false nofun nofun
  · rw [(h s).2 htakes]
    exact iff_of_false nofun fun hboth => htakes hboth.2

theorem fst_limited_eq_full_iff (room : Nat) :
    (p (.limited room)).1 = .error (.failed .full) ↔ room < (Text.utf8 text).length := by
  rw [h.fst_limited]
  split_ifs with hroom
  · exact iff_of_true rfl hroom
  · -- an outcome is a value or a halt, and never the error of the sink
    refine iff_of_false ?_ hroom
    cases outcome with
    | none => exact nofun
    | some _ => exact nofun

theorem fillsInOrder : FillsInOrder p where
  taken room := by rw [h.bytes_limited, h.bytes_memory]
  refused room := by rw [h.bytes_memory, h.fst_limited_eq_full_iff]
  otherwise room hle := by
    rw [h.bytes_memory] at hle
    rw [h.fst_limited, if_neg (Nat.not_lt.mpr hle), h.memory]

end Prints

end Lexicon.Artifact
