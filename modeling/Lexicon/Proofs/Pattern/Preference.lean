import Mathlib.Data.List.TakeWhile
import Lexicon.Pattern.Match

/-! The ends of matches in the order in which a search tries them: earlier branches before later
ones, and more rounds of a repetition before fewer where it is greedy. The first of them is the
match that a search takes, and removing matches goes on behind it. -/
namespace Lexicon.Pattern

open Text (Bytes CodeRanges)

/-- The ends of a repetition with so many rounds that have to come and so many that may. A round
that takes up nothing is the last one. -/
def roundEnds (step : Nat → List Nat) (greedy : Bool) : (least more : Nat) → Nat → List Nat
  | least + 1, more, i => (step i).flatMap (roundEnds step greedy least more)
  | 0, 0, i => [i]
  | 0, more + 1, i =>
    let further := (step i).flatMap fun j => if i < j then roundEnds step greedy 0 more j else [j]
    if greedy then further ++ [i] else i :: further

mutual

/-- The ends of the matches that begin at a place, the preferred one first. -/
def ends (h : Haystack) : Expression → Nat → List Nat
  | .empty, i => [i]
  | .literal bytes, i => if h.standAt i bytes then [i + bytes.length] else []
  | .scalar set, i =>
    match h.scalarAt? i with
    | some (c, n) => if set.contains c.toNat then [i + n] else []
    | none => []
  | .byte set, i =>
    match h[i]? with
    | some b => if set.contains b.toNat then [i + 1] else []
    | none => []
  | .place p, i => if h.holds i p then [i] else []
  | .group _ body, i => ends h body i
  | .sequence parts, i => endsThrough h parts i
  | .choice branches, i => endsAny h branches i
  | .repeated least most greedy body, i =>
    -- a further round takes up a byte, so there are no more of them than bytes
    roundEnds (ends h body) greedy least ((most.map (· - least)).getD h.size) i

def endsThrough (h : Haystack) : List Expression → Nat → List Nat
  | [], i => [i]
  | e :: rest, i => (ends h e i).flatMap (endsThrough h rest)

def endsAny (h : Haystack) : List Expression → Nat → List Nat
  | [], _ => []
  | e :: rest, i => ends h e i ++ endsAny h rest i

end

/-- What is left from a place on once the preferred matches are removed. -/
def removeFrom (e : Expression) (h : Haystack) (i : Nat) : Bytes :=
  if hi : i < h.size then
    match (ends h e i).head? with
    | some j => if i < j then removeFrom e h j else h[i] :: removeFrom e h (i + 1)
    | none => h[i] :: removeFrom e h (i + 1)
  else []
termination_by h.size - i

theorem endsThrough_singleton (h : Haystack) (e : Expression) (i : Nat) :
    endsThrough h [e] i = ends h e i := by
  have hnil : endsThrough h [] = fun i => [i] := by
    funext i
    rw [endsThrough]
  rw [endsThrough, hnil]
  exact List.flatMap_singleton' _

/-! ### Repeated bytes -/

section

variable {set : CodeRanges} {p : UInt8 → Bool} {bytes : Bytes}

theorem ends_byte (hset : ∀ b : UInt8, set.contains b.toNat = p b) (i : Nat) :
    ends bytes.toArray (.byte set) i = if bytes[i]?.any p then [i + 1] else [] := by
  rw [ends, List.getElem?_toArray]
  cases bytes[i]? with
  | none => rfl
  | some b => simp only [hset, Option.any_some]

theorem ends_literal (literal : Bytes) (i : Nat) :
    ends bytes.toArray (.literal literal) i =
      if literal <+: bytes.drop i then [i + literal.length] else [] := by
  have hstand (i : Nat) : Haystack.standAt bytes.toArray i literal = true ↔
      literal <+: bytes.drop i := by
    induction literal generalizing i with
    | nil => simp [Haystack.standAt]
    | cons b literal ih =>
      rw [Haystack.standAt, Bool.and_eq_true, ih, beq_iff_eq, List.getElem?_toArray,
        ← List.head?_drop, ← List.tail_drop]
      cases bytes.drop i <;> simp [eq_comm]
  rw [ends]
  simp only [hstand]

/-- A greedy repetition of bytes can end at each place up to the first byte that does not belong to
it, and prefers the last of these. -/
theorem ends_star (hset : ∀ b : UInt8, set.contains b.toNat = p b) (i : Nat) :
    ends bytes.toArray (.repeated 0 none true (.byte set)) i =
      ((List.range (((bytes.drop i).takeWhile p).length + 1)).map (i + ·)).reverse := by
  -- the rounds are bounded, but by no less than what is left of the text
  have hrounds (n i : Nat) (h : ((bytes.drop i).takeWhile p).length ≤ n) :
      roundEnds (ends bytes.toArray (.byte set)) true 0 n i =
        ((List.range (((bytes.drop i).takeWhile p).length + 1)).map (i + ·)).reverse := by
    induction n generalizing i with
    | zero =>
      have hzero := Nat.le_zero.mp h
      rw [hzero, roundEnds]
      rfl
    | succ n ih =>
      rw [roundEnds, ends_byte hset, ← List.head?_drop]
      have htail := List.tail_drop (l := bytes) (i := i)
      cases hrest : bytes.drop i with
      | nil => rfl
      | cons b rest =>
        rw [hrest] at h htail
        by_cases hb : p b = true
        · rw [List.takeWhile_cons_of_pos hb] at h ⊢
          have hrounds := ih (i + 1)
          rw [← htail, List.tail_cons] at hrounds
          -- the places behind the next one are those behind this one, each moved by one
          have hplace : (fun j => i + 1 + j) = (fun j => i + j) ∘ Nat.succ := by
            funext j
            simp only [Function.comp_apply]
            omega
          simp only [List.head?_cons, Option.any_some, hb, if_true, List.flatMap_cons,
            List.flatMap_nil, List.append_nil, Nat.lt_add_one, List.length_cons]
          rw [hrounds (Nat.le_of_succ_le_succ h), List.range_succ_eq_map (n := _ + 1),
            List.map_cons, List.map_map, List.reverse_cons, hplace]
          rfl
        · simp [hb]
  refine hrounds _ i ?_
  have hlength := (List.takeWhile_prefix (l := bytes.drop i) p).length_le
  rw [List.length_drop] at hlength
  change _ ≤ bytes.length
  omega

/-- Where what follows a greedy repetition cannot begin with a byte of it, the repetition takes up
all that it can. -/
theorem endsThrough_star (hset : ∀ b : UInt8, set.contains b.toNat = p b)
    {parts : List Expression}
    (hparts : ∀ j b, bytes[j]? = some b → p b = true → endsThrough bytes.toArray parts j = [])
    (i : Nat) : endsThrough bytes.toArray (.repeated 0 none true (.byte set) :: parts) i =
      endsThrough bytes.toArray parts (i + ((bytes.drop i).takeWhile p).length) := by
  rw [endsThrough, ends_star hset, List.range_succ, List.map_append, List.reverse_append,
    List.map_singleton, List.reverse_singleton, List.singleton_append, List.flatMap_cons]
  refine (congrArg _ (List.flatMap_eq_nil_iff.mpr ?_)).trans (List.append_nil _)
  intro j hj
  obtain ⟨k, hk, rfl⟩ := List.mem_map.mp (List.mem_reverse.mp hj)
  have hk := List.mem_range.mp hk
  refine hparts (i + k) (((bytes.drop i).takeWhile p)[k]) ?_
    (List.mem_takeWhile_imp (List.getElem_mem hk))
  rw [← List.getElem?_drop]
  exact (List.prefix_iff_getElem?.mp (List.takeWhile_prefix p)) k hk

end

end Lexicon.Pattern
