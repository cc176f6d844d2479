import Lexicon.Proofs.Conformance.NormalOutput

/-! The seam of the two streams of a process. Escape sequences are removed from both streams
together, and only a sequence that begins in the first and ends in the second makes a difference:
without one, each stream is normalised by itself. What follows a stream can complete a sequence
exactly if the stream ends within one. -/
namespace Lexicon.Conformance

open Text (Bytes)

namespace Escape

/-- A sequence begins in the first text and ends in the second. -/
def Straddles (left right : Bytes) : Prop :=
  ∃ front back, front ≠ [] ∧ back ≠ [] ∧ IsSequence (front ++ back) ∧
    front <:+ left ∧ back <+: right

/-- No end of the bytes is a sequence that lacks its own end. -/
def EndsOutside (bytes : Bytes) : Prop :=
  ∀ tail, tail ≠ [] → tail <:+ bytes → ∀ s, IsSequence s → tail <+: s → tail = s

theorem IsSequence.isInner_of_append {front back : Bytes} (h : IsSequence (front ++ back))
    (hfront : front ≠ []) : ∀ b ∈ back, IsInner b := by
  obtain ⟨b, front, rfl⟩ := List.exists_cons_of_ne_nil hfront
  exact fun c hc => h.bytes.2 c (List.mem_append_right front hc)

theorem not_straddles_of_suffix {left left' right : Bytes} (h : ¬Straddles left right)
    (hsuffix : left' <:+ left) : ¬Straddles left' right := by
  rintro ⟨front, back, hfront, hback, hs, hleft, hright⟩
  exact h ⟨front, back, hfront, hback, hs, hleft.trans hsuffix, hright⟩

/-- The scanner passes the seam between two steps, unless a sequence lies across it. -/
theorem Stripped.append_of_not_straddles {left right out out' : Bytes} (h : Stripped left out)
    (h' : Stripped right out') (hseam : ¬Straddles left right) :
    Stripped (left ++ right) (out ++ out') := by
  induction h with
  | nil => exact h'
  | @remove sequence rest _ hsequence _ ih =>
    rw [List.append_assoc]
    exact .remove hsequence (ih (not_straddles_of_suffix hseam (List.suffix_append sequence rest)))
  | @keep b rest _ hkeep _ ih =>
    refine .keep (fun s hs hsequence => ?_)
      (ih (not_straddles_of_suffix hseam (List.suffix_cons b rest)))
    change s <+: b :: rest ++ right at hs
    rcases List.prefix_or_prefix_of_prefix hs (List.prefix_append (b :: rest) right) with
      hinside | ⟨back, rfl⟩
    · exact hkeep s hinside hsequence
    · -- the sequence would take all that is left of the first text, and more
      rw [List.prefix_append_right_inj] at hs
      by_cases hback : back = []
      · rw [hback, List.append_nil] at hsequence
        exact hkeep _ (List.prefix_refl _) hsequence
      · exact hseam ⟨b :: rest, back, nofun, hback, hsequence, List.suffix_refl _, hs⟩

theorem strip_append_of_isInner {bytes : Bytes} (h : ∀ b ∈ bytes, IsInner b) (rest : Bytes) :
    strip (bytes ++ rest) = bytes ++ strip rest := by
  induction bytes with
  | nil => rfl
  | cons b bytes ih =>
    obtain ⟨hb, hbytes⟩ := List.forall_mem_cons.mp h
    rw [List.cons_append, strip_cons_of_isIdle (isIdle_of_isInner hb), ih hbytes, List.cons_append]

/-- A sequence across the seam is removed from the whole, and both parts of it are kept where the
texts are stripped one by one. -/
theorem Straddles.length_lt {left right : Bytes} (h : Straddles left right) :
    (strip (left ++ right)).length < (strip left ++ strip right).length := by
  obtain ⟨front, back, hfront, hback, hs, ⟨before, rfl⟩, ⟨behind, rfl⟩⟩ := h
  have hwhole : strip (before ++ front ++ (back ++ behind)) = strip before ++ strip behind := by
    rw [List.append_assoc before, ← List.append_assoc front, ← List.append_assoc before,
      strip_append_sequence hs]
  have hleft : strip (before ++ front) = strip before ++ strip front := by
    refine strip_append_of_head fun c hc => ?_
    refine hs.head_not_isInner [] c ?_
    rw [List.append_nil, List.head?_append_of_ne_nil _ hfront]
    exact hc
  have hright : strip (back ++ behind) = back ++ strip behind :=
    strip_append_of_isInner (hs.isInner_of_append hfront) behind
  have hpos : 0 < back.length := List.length_pos_iff.mpr hback
  rw [hwhole, hleft, hright]
  simp only [List.length_append]
  omega

theorem strip_append_iff (left right : Bytes) :
    strip (left ++ right) = strip left ++ strip right ↔ ¬Straddles left right := by
  constructor
  · intro heq hseam
    have hlength := hseam.length_lt
    rw [heq] at hlength
    exact Nat.lt_irrefl _ hlength
  · intro hseam
    rw [← stripped_iff]
    exact (stripped_strip left).append_of_not_straddles (stripped_strip right) hseam

/-- Bytes that end within a sequence are completed by what the sequence lacks. -/
theorem endsOutside_iff (bytes : Bytes) : EndsOutside bytes ↔ ∀ more, ¬Straddles bytes more := by
  constructor
  · rintro h more ⟨front, back, hfront, hback, hs, hsuffix, -⟩
    have heq := h front hfront hsuffix _ hs (List.prefix_append front back)
    exact hback (List.self_eq_append_right.mp heq)
  · rintro h tail htail hsuffix s hs ⟨back, rfl⟩
    by_contra hne
    have hback : back ≠ [] := by
      rintro rfl
      exact hne (List.append_nil tail).symm
    exact h back ⟨tail, back, htail, hback, hs, hsuffix, List.prefix_refl back⟩

end Escape

theorem foldLineBreaks_of_isInner {bytes : Bytes} (h : ∀ b ∈ bytes, Escape.IsInner b) :
    foldLineBreaks bytes = bytes := by
  rw [foldLineBreaks_eq_self_iff]
  intro hpair
  have hreturn : (13 : UInt8) ∈ bytes := hpair.subset List.mem_cons_self
  exact absurd (h 13 hreturn) (by decide)

/-- Both streams are normalised apart exactly if no sequence lies across their seam. The first one
can be followed by anything exactly if it does not end within a sequence. -/
theorem normalizeOutput_apart_iff (stderr : Bytes) :
    (∀ stdout, normalizeOutput stdout stderr =
        normalizeOutput [] stderr ++ normalizeOutput stdout [] ↔
      ¬Escape.Straddles (foldLineBreaks stderr) (foldLineBreaks stdout)) ∧
    ((∀ stdout, normalizeOutput stdout stderr =
        normalizeOutput [] stderr ++ normalizeOutput stdout []) ↔
      Escape.EndsOutside (foldLineBreaks stderr)) := by
  have hapart (stdout : Bytes) : normalizeOutput stdout stderr =
      normalizeOutput [] stderr ++ normalizeOutput stdout [] ↔
        ¬Escape.Straddles (foldLineBreaks stderr) (foldLineBreaks stdout) := by
    rw [← Escape.strip_append_iff, normalizeOutput, normalizeOutput, normalizeOutput,
      foldLineBreaks, List.append_nil, List.nil_append]
  refine ⟨hapart, ?_⟩
  simp only [hapart, Escape.endsOutside_iff]
  constructor
  · rintro h more ⟨front, back, hfront, hback, hs, hsuffix, -⟩
    -- what a sequence lacks has no line break in it, and can be printed as it is
    have hfold := foldLineBreaks_of_isInner (hs.isInner_of_append hfront)
    refine h back ⟨front, back, hfront, hback, hs, hsuffix, ?_⟩
    rw [hfold]
  · exact fun h stdout => h _

/-- An escape byte at the end of one stream takes away from the other one. -/
example : normalizeOutput [0x5B, 0x30, 0x6D, 0x21] [0x1B] = [0x21] ∧
    normalizeOutput [0x5B, 0x30, 0x6D, 0x21] [] = [0x5B, 0x30, 0x6D, 0x21] := by
  constructor <;> cbv

end Lexicon.Conformance
