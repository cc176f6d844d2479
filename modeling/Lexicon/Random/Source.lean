/-!
Sources of random draws. A table generator asks for two kinds of draws, a chance and a number below a bound; where
they come from is left open. `Source.ofWords` takes them from a stream of words, a number by the high half of a
product, so that every number below the bound is about equally likely.
-/
namespace Lexicon.Random

structure Source (σ : Type) where
  /-- Comes true in `threshold` of `2 ^ 64` cases. -/
  chance : (threshold : Nat) → σ → Bool × σ
  /-- A number below a bound that is not zero. -/
  below : (bound : Nat) → σ → Nat × σ

/-- The draws below a bound are below it, for bounds of up to 32 bits. -/
def Source.Lawful (source : Source σ) : Prop :=
  ∀ bound, 0 < bound → bound ≤ UInt32.size → ∀ s, (source.below bound s).1 < bound

structure WordStream (σ : Type) where
  next32 : σ → UInt32 × σ
  next64 : σ → UInt64 × σ

namespace WordStream

def chance (words : WordStream σ) (threshold : Nat) (s : σ) : Bool × σ :=
  let (w, s) := words.next64 s
  (decide (w.toNat < threshold), s)

/-- A number below a bound of at most 32 bits. Where the first word leaves the number in doubt, the next one decides
about the carry. -/
def below (words : WordStream σ) (bound : Nat) (s : σ) : Nat × σ :=
  let (w, s) := words.next32 s
  let high := w.toNat * bound / UInt32.size
  let low := w.toNat * bound % UInt32.size
  if UInt32.size - bound < low then
    let (w, s) := words.next32 s
    (if UInt32.size ≤ low + w.toNat * bound / UInt32.size then high + 1 else high, s)
  else (high, s)

end WordStream

def Source.ofWords (words : WordStream σ) : Source σ := ⟨words.chance, words.below⟩

/-- The high half of a product is below the bound. -/
theorem product_high_lt {w bound : Nat} (hw : w < UInt32.size) (hb : 0 < bound) : w * bound / UInt32.size < bound :=
  Nat.div_lt_of_lt_mul (Nat.mul_lt_mul_of_pos_right hw hb)

/-- Where a carry is possible, the high half is not the last number below the bound. -/
theorem succ_product_high_lt {w bound : Nat} (hw : w < UInt32.size) (hb : bound ≤ UInt32.size)
    (hlow : UInt32.size - bound < w * bound % UInt32.size) : w * bound / UInt32.size + 1 < bound := by
  simp only [UInt32.size] at *
  have hsplit := Nat.div_add_mod (w * bound) 4294967296
  have hle : w * bound ≤ 4294967295 * bound := Nat.mul_le_mul_right _ (by omega)
  generalize w * bound = p at *
  omega

theorem Source.lawful_ofWords (words : WordStream σ) : (Source.ofWords words).Lawful := by
  intro bound hpos hbound s
  show (words.below bound s).1 < bound
  rw [WordStream.below]
  split
  next w t _ =>
    have hhigh := product_high_lt w.toNat_lt hpos
    dsimp only
    split
    next hlow =>
      have hsucc := succ_product_high_lt w.toNat_lt hbound hlow
      dsimp only
      split <;> assumption
    next => exact hhigh

end Lexicon.Random
