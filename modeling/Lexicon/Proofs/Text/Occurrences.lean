import Mathlib.Data.List.Infix
import Mathlib.Tactic.LinearCombination
import Mathlib.Tactic.Zify
import Lexicon.Text.Replace

namespace Lexicon.Text

/-- At how many places of the text the pattern stands. -/
def occurrences (pattern cs : List Char) : Nat := cs.tails.countP (pattern.isPrefixOf ·)

/-- A text with gaps, each of them filled with the same characters. -/
def fill (filling : List Char) (items : List (Option Char)) : List Char :=
  items.flatMap fun item => item.elim filling fun c => [c]

@[simp] theorem fill_nil (filling : List Char) : fill filling [] = [] := rfl

@[simp] theorem fill_none (filling : List Char) (items : List (Option Char)) :
    fill filling (none :: items) = filling ++ fill filling items := rfl

@[simp] theorem fill_some (filling : List Char) (c : Char) (items : List (Option Char)) :
    fill filling (some c :: items) = c :: fill filling items := rfl

@[simp] theorem fill_map_some_append (filling cs : List Char) (items : List (Option Char)) :
    fill filling (cs.map some ++ items) = cs ++ fill filling items := by
  induction cs with
  | nil => rfl
  | cons c cs ih => rw [List.map_cons, List.cons_append, fill_some, ih, List.cons_append]

/-- Two fillings differ in length by what their gaps differ in. -/
theorem length_fill_add (left right : List Char) (items : List (Option Char)) :
    (fill left items).length + right.length * items.count none =
      (fill right items).length + left.length * items.count none := by
  induction items with
  | nil => rfl
  | cons item items ih =>
    cases item with
    | none =>
      rw [fill_none, fill_none, List.length_append, List.length_append, List.count_cons_self,
        Nat.mul_succ, Nat.mul_succ]
      omega
    | some c =>
      rw [fill_some, fill_some, List.count_cons_of_ne (by simp), List.length_cons, List.length_cons]
      omega

theorem replaceChars_cons_of_absent {pattern by' cs : List Char} {c : Char}
    (h : ¬pattern <+: c :: cs) :
    replaceChars pattern by' (c :: cs) = c :: replaceChars pattern by' cs := by
  rw [replaceChars, if_neg]
  rw [Bool.and_eq_true, List.isPrefixOf_iff_prefix]
  exact fun hand => h hand.2

theorem replaceChars_append_self {pattern by' cs : List Char} (h : pattern ≠ []) :
    replaceChars pattern by' (pattern ++ cs) = by' ++ replaceChars pattern by' cs := by
  obtain ⟨c, rest, rfl⟩ := List.exists_cons_of_ne_nil h
  have hstart : (c :: rest).isPrefixOf (c :: (rest ++ cs)) = true :=
    List.isPrefixOf_iff_prefix.mpr ⟨cs, rfl⟩
  rw [List.cons_append, replaceChars, hstart, List.length_cons, Nat.add_sub_cancel,
    List.drop_left]
  rfl

/-- Induction along a replacement: an occurrence is passed as a whole, anything else by one
character. -/
@[elab_as_elim]
theorem replaceChars_induction {pattern : List Char} (h : pattern ≠ [])
    {motive : List Char → Prop} (nil : motive [])
    (found : ∀ cs, motive cs → motive (pattern ++ cs))
    (kept : ∀ c cs, ¬pattern <+: c :: cs → motive cs → motive (c :: cs)) (cs : List Char) :
    motive cs := by
  induction hlength : cs.length using Nat.strong_induction_on generalizing cs with
  | _ n ih =>
    subst hlength
    by_cases hstart : pattern <+: cs
    · obtain ⟨rest, rfl⟩ := hstart
      have hpos := List.length_pos_of_ne_nil h
      exact found rest (ih _ (by rw [List.length_append]; omega) rest rfl)
    · cases cs with
      | nil => exact nil
      | cons c cs => exact kept c cs hstart (ih _ (Nat.lt_succ_self _) cs rfl)

theorem replaceChars_self {pattern : List Char} (h : pattern ≠ []) (cs : List Char) :
    replaceChars pattern pattern cs = cs := by
  induction cs using replaceChars_induction h with
  | nil => rw [replaceChars]
  | found cs ih => rw [replaceChars_append_self h, ih]
  | kept c cs hnot ih => rw [replaceChars_cons_of_absent hnot, ih]

/-- What is read up to a character that is not put in was there before, unless what is put in is a
part of it. -/
theorem prefix_of_prefix_replaceChars {pattern by' front cs : List Char} {last : Char}
    (hpattern : pattern ≠ []) (hlast : last ∉ by') (hin : ¬by' <:+: front)
    (h : front ++ [last] <+: replaceChars pattern by' cs) : front ++ [last] <+: cs := by
  induction cs using replaceChars_induction hpattern generalizing front with
  | nil =>
    rw [replaceChars] at h
    exact h
  | found cs ih =>
    rw [replaceChars_append_self hpattern] at h
    -- either the last character was put in, or all of what was put in stands before it
    exfalso
    rcases List.prefix_or_prefix_of_prefix h (List.prefix_append by' _) with hshort | hlong
    · exact hlast (hshort.subset (List.mem_append_right front List.mem_cons_self))
    · rcases List.prefix_concat_iff.mp hlong with rfl | hfront
      · exact hlast (List.mem_append_right front List.mem_cons_self)
      · exact hin hfront.isInfix
  | kept c cs hnot ih =>
    rw [replaceChars_cons_of_absent hnot] at h
    cases front with
    | nil =>
      rw [List.nil_append, List.cons_prefix_cons] at h
      exact List.cons_prefix_cons.mpr ⟨h.1, List.nil_prefix⟩
    | cons a front =>
      rw [List.cons_append, List.cons_prefix_cons] at h
      have hrest := ih (fun hpart => hin (hpart.trans (List.suffix_cons a front).isInfix)) h.2
      exact List.cons_prefix_cons.mpr ⟨h.1, hrest⟩

theorem occurrences_cons_of_absent {pattern cs : List Char} {c : Char}
    (h : ¬pattern <+: c :: cs) : occurrences pattern (c :: cs) = occurrences pattern cs := by
  rw [occurrences, List.tails_cons, List.countP_cons, if_neg, Nat.add_zero, occurrences]
  rwa [List.isPrefixOf_iff_prefix]

theorem occurrences_cons_of_present {pattern cs : List Char} {c : Char}
    (h : pattern <+: c :: cs) : occurrences pattern (c :: cs) = occurrences pattern cs + 1 := by
  rw [occurrences, List.tails_cons, List.countP_cons, if_pos, occurrences]
  rwa [List.isPrefixOf_iff_prefix]

theorem occurrences_le_cons (pattern cs : List Char) (c : Char) :
    occurrences pattern cs ≤ occurrences pattern (c :: cs) := by
  rw [occurrences, occurrences, List.tails_cons, List.countP_cons]
  exact Nat.le_add_right _ _

section

variable {first : Char} {body : List Char}

theorem not_prefix_cons_of_ne {c : Char} {cs : List Char} (h : c ≠ first) :
    ¬first :: body <+: c :: cs :=
  fun hstart => h (List.cons_prefix_cons.mp hstart).1.symm

theorem occurrences_append_of_not_mem {front : List Char} (h : first ∉ front) (cs : List Char) :
    occurrences (first :: body) (front ++ cs) = occurrences (first :: body) cs := by
  induction front with
  | nil => rfl
  | cons c front ih =>
    rw [List.mem_cons, not_or] at h
    rw [List.cons_append, occurrences_cons_of_absent (not_prefix_cons_of_ne (Ne.symm h.1)),
      ih h.2]

theorem replaceChars_append_of_not_mem {front : List Char} (h : first ∉ front)
    (by' cs : List Char) : replaceChars (first :: body) by' (front ++ cs) =
      front ++ replaceChars (first :: body) by' cs := by
  induction front with
  | nil => rfl
  | cons c front ih =>
    rw [List.mem_cons, not_or] at h
    rw [List.cons_append,
      replaceChars_cons_of_absent (not_prefix_cons_of_ne (Ne.symm h.1)), ih h.2,
      List.cons_append]

/-- What is read without the pattern's first character does not come from a filled gap. -/
theorem exists_of_prefix_fill {front : List Char} {items : List (Option Char)}
    (hfront : first ∉ front) (h : front <+: fill (first :: body) items) :
    ∃ rest, items = front.map some ++ rest := by
  induction front generalizing items with
  | nil => exact ⟨items, rfl⟩
  | cons c front ih =>
    rw [List.mem_cons, not_or] at hfront
    match items with
    | [] => exact absurd (List.prefix_nil.mp h) (List.cons_ne_nil _ _)
    | none :: items =>
      rw [fill_none, List.cons_append, List.cons_prefix_cons] at h
      exact absurd h.1.symm hfront.1
    | some d :: items =>
      rw [fill_some, List.cons_prefix_cons] at h
      obtain ⟨rest, rfl⟩ := ih hfront.2 h.2
      exact ⟨rest, by rw [h.1, List.map_cons, List.cons_append]⟩

variable (hbody : first ∉ body)
include hbody

theorem occurrences_append_self (cs : List Char) :
    occurrences (first :: body) (first :: body ++ cs) = occurrences (first :: body) cs + 1 := by
  rw [List.cons_append, occurrences_cons_of_present ⟨cs, rfl⟩, occurrences_append_of_not_mem hbody]

theorem count_none_le_occurrences (items : List (Option Char)) :
    items.count none ≤ occurrences (first :: body) (fill (first :: body) items) := by
  induction items with
  | nil => exact Nat.zero_le _
  | cons item items ih =>
    cases item with
    | none =>
      rw [fill_none, occurrences_append_self hbody, List.count_cons_self]
      omega
    | some c =>
      rw [fill_some, List.count_cons_of_ne (by simp)]
      exact ih.trans (occurrences_le_cons _ _ c)

/-- Replacement changes the length by what the occurrences differ in from what is put in their
places. -/
theorem length_replaceChars_add (by' cs : List Char) :
    (replaceChars (first :: body) by' cs).length +
        (first :: body).length * occurrences (first :: body) cs =
      cs.length + by'.length * occurrences (first :: body) cs := by
  induction cs using replaceChars_induction (List.cons_ne_nil first body) with
  | nil => rw [replaceChars]; rfl
  | found cs ih =>
    rw [replaceChars_append_self (List.cons_ne_nil _ _), occurrences_append_self hbody,
      List.length_append, List.length_append, Nat.mul_succ, Nat.mul_succ]
    omega
  | kept c cs hnot ih =>
    rw [replaceChars_cons_of_absent hnot, occurrences_cons_of_absent hnot,
      List.length_cons, List.length_cons (a := c)]
    omega

/-- Each gap is filled anew, if no occurrence of the pattern has come about besides them. -/
theorem replaceChars_fill {by' : List Char} {items : List (Option Char)}
    (h : occurrences (first :: body) (fill (first :: body) items) = items.count none) :
    replaceChars (first :: body) by' (fill (first :: body) items) = fill by' items := by
  induction items with
  | nil => rw [fill_nil, replaceChars, fill_nil]
  | cons item items ih =>
    cases item with
    | none =>
      rw [fill_none, occurrences_append_self hbody, List.count_cons_self,
        Nat.add_right_cancel_iff] at h
      rw [fill_none, fill_none, replaceChars_append_self (List.cons_ne_nil _ _), ih h]
    | some c =>
      -- an occurrence here would be one more than there are gaps behind it
      have hle := count_none_le_occurrences hbody items
      have hnot : ¬first :: body <+: c :: fill (first :: body) items := by
        intro hstart
        rw [fill_some, occurrences_cons_of_present hstart, List.count_cons_of_ne (by simp)] at h
        omega
      rw [fill_some, occurrences_cons_of_absent hnot, List.count_cons_of_ne (by simp)] at h
      rw [fill_some, fill_some, replaceChars_cons_of_absent hnot, ih h]

/-- Besides the gaps there is no occurrence of the pattern, if each gap is filled anew with as many
other characters. -/
theorem occurrences_fill {by' : List Char} {items : List (Option Char)}
    (hlength : by'.length = (first :: body).length) (hne : by' ≠ first :: body)
    (h : replaceChars (first :: body) by' (fill (first :: body) items) = fill by' items) :
    occurrences (first :: body) (fill (first :: body) items) = items.count none := by
  induction items with
  | nil => rfl
  | cons item items ih =>
    cases item with
    | none =>
      rw [fill_none, fill_none, replaceChars_append_self (List.cons_ne_nil _ _),
        List.append_cancel_left_eq] at h
      rw [fill_none, occurrences_append_self hbody, List.count_cons_self, ih h]
    | some c =>
      have hnot : ¬first :: body <+: c :: fill (first :: body) items := by
        intro hstart
        -- the characters of the pattern are written over, and they are kept
        obtain ⟨rfl, hrest⟩ := List.cons_prefix_cons.mp hstart
        obtain ⟨rest, rfl⟩ := exists_of_prefix_fill hbody hrest
        rw [fill_some, fill_map_some_append, ← List.cons_append,
          replaceChars_append_self (List.cons_ne_nil _ _), fill_some, fill_map_some_append,
          ← List.cons_append] at h
        exact hne (List.append_inj_left h hlength)
      rw [fill_some, fill_some, replaceChars_cons_of_absent hnot, List.cons.injEq,
        eq_self, true_and] at h
      rw [fill_some, occurrences_cons_of_absent hnot, List.count_cons_of_ne (by simp), ih h]

/-- Replacing all occurrences of the pattern fills the gaps anew, and does nothing besides, exactly
if there is no other occurrence. -/
theorem replaceChars_fill_iff (by' : List Char) (items : List (Option Char)) :
    replaceChars (first :: body) by' (fill (first :: body) items) = fill by' items ↔
      by' = first :: body ∨
        occurrences (first :: body) (fill (first :: body) items) = items.count none := by
  constructor
  · intro h
    by_cases hne : by' = first :: body
    · exact .inl hne
    right
    by_cases hlength : by'.length = (first :: body).length
    · exact occurrences_fill hbody hlength hne h
    -- every other occurrence would change the length
    have hreplaced := length_replaceChars_add hbody by' (fill (first :: body) items)
    have hfilled := length_fill_add by' (first :: body) items
    rw [h] at hreplaced
    have hproduct : ((by'.length : Int) - (first :: body).length) *
        (occurrences (first :: body) (fill (first :: body) items) - items.count none) = 0 := by
      zify at hreplaced hfilled
      linear_combination hfilled - hreplaced
    rcases mul_eq_zero.mp hproduct with hzero | hzero
    · omega
    · omega
  · rintro (rfl | h)
    · exact replaceChars_self (List.cons_ne_nil _ _) _
    · exact replaceChars_fill hbody h

end

end Lexicon.Text
