import Mathlib.Data.List.Induction
import Mathlib.Tactic.SplitIfs
import Lexicon.Json.Token
import Lexicon.Proofs.Text.Numerals

namespace Lexicon.Json

/-! ### Text literals -/

namespace Literal

/-- A character with an escape by number is found again by its number. -/
theorem readEscape_unicode {n : Nat} (hn : n < 0x20) (offset : Nat) (rest : List Char) :
    readEscape offset ('u' :: (Text.padStart 4 '0' (Nat.toDigits 16 n) ++ rest)) =
      .ok (Char.ofNat n, 5) := by
  -- there are few enough control characters to look at each of them
  have hdigits : ∀ n < 0x20, (Text.padStart 4 '0' (Nat.toDigits 16 n)).length = 4 ∧
      byteCount (Text.padStart 4 '0' (Nat.toDigits 16 n)) = 4 ∧
      (Text.padStart 4 '0' (Nat.toDigits 16 n)).all isHex = true ∧
      Text.readHex (Text.padStart 4 '0' (Nat.toDigits 16 n)) = n := by decide
  obtain ⟨hlength, hbytes, hhex, hvalue⟩ := hdigits n hn
  have hunit : readUnit (offset + 1) (Text.padStart 4 '0' (Nat.toDigits 16 n) ++ rest) = .ok n := by
    rw [readUnit, List.take_left' hlength, hbytes, if_neg (Nat.lt_irrefl 4), if_pos hhex, hvalue]
  have hshort : shortEscape? 'u' = none := rfl
  have hplane : ¬(0xDC00 ≤ n ∧ n ≤ 0xDFFF) := by omega
  rw [readEscape, hshort]
  dsimp only
  rw [if_pos (by decide), readUnicode, hunit]
  change (if _ then _ else _ : Except Slip (Char × Nat)).map _ = _
  rw [if_neg hplane, if_pos (.inl (by omega))]
  rfl

/-- One character is read as it was written, if what follows is read at all. -/
theorem read_writeChar_append (c : Char) {cs text : List Char} {taken : Nat}
    (h : ∀ offset, read offset cs = .ok (text, taken)) (offset : Nat) :
    read offset (writeChar c ++ cs) = .ok (c :: text, (writeChar c).length + taken) := by
  -- the characters with a letter of their own are all read in the same way
  have hescape {letter : Char} (hletter : shortEscape? letter = some c) :
      read offset ('\\' :: letter :: cs) = .ok (c :: text, 2 + taken) := by
    rw [read, if_neg (by decide), if_pos (by decide), readEscape, hletter]
    dsimp only
    rw [List.drop_one, List.tail_cons, h]
  unfold writeChar
  split_ifs with hquote hbackslash hb hf hn hr ht hcontrol
  · exact hescape (by rw [beq_iff_eq.mp hquote]; rfl)
  · exact hescape (by rw [beq_iff_eq.mp hbackslash]; rfl)
  · exact hescape (by rw [beq_iff_eq.mp hb]; rfl)
  · exact hescape (by rw [beq_iff_eq.mp hf]; rfl)
  · exact hescape (by rw [beq_iff_eq.mp hn]; rfl)
  · exact hescape (by rw [beq_iff_eq.mp hr]; rfl)
  · exact hescape (by rw [beq_iff_eq.mp ht]; rfl)
  · have hlength : (Text.padStart 4 '0' (Nat.toDigits 16 c.toNat)).length = 4 := by
      have hdigits : ∀ n < 0x20, (Text.padStart 4 '0' (Nat.toDigits 16 n)).length = 4 := by decide
      exact hdigits _ hcontrol
    rw [List.cons_append, List.cons_append, read, if_neg (by decide), if_pos (by decide),
      readEscape_unicode hcontrol, Char.ofNat_toNat]
    dsimp only
    rw [List.drop_succ_cons, List.drop_left' hlength, h, List.length_cons, List.length_cons,
      hlength]
  · rw [List.singleton_append, read, if_neg hquote, if_neg hbackslash, if_neg hcontrol, h,
      List.length_singleton, Nat.add_comm 1]

/-- A text is read as it was written, up to its closing quote. -/
theorem read_write (cs rest : List Char) (offset : Nat) :
    read offset (cs.flatMap writeChar ++ '"' :: rest) =
      .ok (cs, (cs.flatMap writeChar).length + 1) := by
  induction cs generalizing offset with
  | nil =>
    rw [List.flatMap_nil, List.nil_append, read, if_pos (by decide)]
    rfl
  | cons c cs ih =>
    rw [List.flatMap_cons, List.append_assoc, read_writeChar_append c ih, List.length_append,
      Nat.add_assoc]

end Literal

/-! ### Integers -/

/-- What can follow a number without being taken for a part of it. -/
def Delimited (rest : List Char) : Prop :=
  ∀ c ∈ rest.head?, c.isDigit = false ∧ c ∉ ['.', 'e', 'E']

theorem delimited_cons {c : Char} (h : c.isDigit = false ∧ c ∉ ['.', 'e', 'E']) (rest : List Char) :
    Delimited (c :: rest) := by
  intro d hd
  obtain rfl := Option.some.inj hd
  exact h

namespace Number

theorem foldl_pushWhole {ds : List Char} (h : Text.digitsValue 10 ds < UInt64.size) :
    ds.foldl Significand.pushWhole .empty = ⟨Text.digitsValue 10 ds, 0, false⟩ := by
  induction ds using List.reverseRecOn with
  | nil => rfl
  | append_singleton ds c ih =>
    rw [Text.digitsValue_append_singleton] at h ⊢
    have hfits : Significand.overflows (Text.digitsValue 10 ds) c = false :=
      decide_eq_false (Nat.not_le.mpr h)
    rw [List.foldl_append, ih (by omega), List.foldl_cons, List.foldl_nil, Significand.pushWhole,
      hfits]
    rfl

/-- Only zero begins with the digit zero. -/
theorem head?_toDigits {n : Nat} (hn : 0 < n) : (Nat.toDigits 10 n).head? ≠ some '0' := by
  induction n using Nat.strongRecOn with
  | _ n ih =>
    by_cases h : n < 10
    · have hdigit : ∀ d < 10, 0 < d → d.digitChar ≠ '0' := by decide
      rw [Nat.toDigits_of_lt_base h, List.head?_cons, ne_eq, Option.some.injEq]
      exact hdigit n h hn
    · have hquotient := ih (n / 10) (by omega) (by omega)
      obtain ⟨c, cs, hcs⟩ := List.exists_cons_of_ne_nil (Nat.toDigits_ne_nil )
      rw [hcs] at hquotient
      rw [Nat.toDigits_of_base_le (by decide) (by omega), hcs]
      exact hquotient

/-- The digits of a number are all taken, and nothing behind them. -/
theorem scanUnsigned_toDigits (negative : Bool) (taken : Nat) {n : Nat} (hn : n < UInt64.size)
    {rest : List Char} (hrest : Delimited rest) :
    scanUnsigned negative taken (Nat.toDigits 10 n ++ rest) =
      scanRest negative ⟨n, 0, false⟩ (taken + (Nat.toDigits 10 n).length) rest := by
  have hdigits : ∀ c ∈ Nat.toDigits 10 n, c.isDigit = true :=
    fun c hc => Nat.isDigit_of_mem_toDigits (by decide) (by decide) hc
  have hvalue : Text.digitsValue 10 (Nat.toDigits 10 n) = n := by
    have h := (Text.digits_toDigits (by decide) Text.spells_decimal n).2
    rwa [List.map_id] at h
  -- zero is a digit that no other may follow
  rcases Nat.eq_zero_or_pos n with rfl | hpos
  · have hnext : rest.head?.any Char.isDigit = false := by
      cases hhead : rest.head? with
      | none => rfl
      | some c => exact (hrest c (by rw [hhead]; rfl)).1
    change scanUnsigned negative taken ('0' :: rest) = _
    rw [scanUnsigned, if_pos (by decide), hnext]
    rfl
  · have hstop : rest.takeWhile Char.isDigit = [] := by
      cases rest with
      | nil => rfl
      | cons c rest => rw [List.takeWhile_cons_of_neg (by rw [(hrest c rfl).1]; decide)]
    have htake : (Nat.toDigits 10 n ++ rest).takeWhile Char.isDigit = Nat.toDigits 10 n := by
      rw [List.takeWhile_append_of_pos hdigits, hstop, List.append_nil]
    have hhead := head?_toDigits hpos
    have hfold : (Nat.toDigits 10 n).foldl Significand.pushWhole .empty = ⟨n, 0, false⟩ := by
      rw [foldl_pushWhole (by rw [hvalue]; exact hn), hvalue]
    have hdrop : (Nat.toDigits 10 n ++ rest).drop (Nat.toDigits 10 n).length = rest :=
      List.drop_left
    obtain ⟨c, cs, hcs⟩ := List.exists_cons_of_ne_nil (Nat.toDigits_ne_nil )
    have hc : c.isDigit = true := hdigits c (by rw [hcs]; exact List.mem_cons_self)
    rw [hcs, List.head?_cons, ne_eq, Option.some.injEq] at hhead
    rw [hcs, List.cons_append] at htake hdrop ⊢
    rw [scanUnsigned, if_neg (by rw [beq_iff_eq]; exact hhead), if_pos hc, htake]
    dsimp only
    rw [hdrop, ← hcs, hfold]

theorem scanRest_of_delimited (negative : Bool) (s : Significand) (taken : Nat) {rest : List Char}
    (hrest : Delimited rest) : scanRest negative s taken rest = scanRest negative s taken [] := by
  cases rest with
  | nil => rfl
  | cons c rest =>
    obtain ⟨-, hc⟩ := hrest c rfl
    simp only [List.mem_cons, List.not_mem_nil, or_false, not_or] at hc
    unfold scanRest
    split
    · rename_i h
      exact absurd (List.cons.inj h).1 hc.1
    · rename_i h
      exact absurd (List.cons.inj h).1 hc.2.1
    · rename_i h
      exact absurd (List.cons.inj h).1 hc.2.2
    · rfl

theorem scanRest_natural (n taken : Nat) {rest : List Char} (hrest : Delimited rest) :
    scanRest false ⟨n, 0, false⟩ taken rest = .ok (.integer n, taken) := by
  rw [scanRest_of_delimited _ _ _ hrest]
  rfl

theorem scanRest_negated {n : Nat} (hpos : 0 < n) (hle : n ≤ 0x8000000000000000) (taken : Nat)
    {rest : List Char} (hrest : Delimited rest) :
    scanRest true ⟨n, 0, false⟩ taken rest = .ok (.integer (-n), taken) := by
  rw [scanRest_of_delimited _ _ _ hrest]
  exact if_pos ⟨hpos, hle⟩

end Number

end Lexicon.Json
