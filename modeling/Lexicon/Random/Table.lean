import Lexicon.Random.Source
import Lexicon.Table.Basic

namespace Lexicon.Random

variable {σ : Type}

def half : Nat := 0x8000000000000000

/-- How rarely a name is in capital letters: in fifteen of a hundred cases. -/
def capitalChance : Nat := 2767011611056432640

/-- How rarely a definition has a display name of its own: in one of five cases. -/
def displayChance : Nat := 3689348814741910528

def pick (source : Source σ) (items : List α) (fallback : α) : StateM σ α := do
  return items.getD (← source.below items.length) fallback

def letter (source : Source σ) (capital : Bool) : StateM σ Char := do
  return Char.ofNat ((if capital then 'A' else 'a').toNat + (← source.below 26))

/-- One to eight letters, all small or all capital. -/
def stem (source : Source σ) : StateM σ String := do
  let length := 1 + (← source.below 8)
  let capital ← source.chance capitalChance
  return String.ofList (← (List.range length).mapM fun _ => letter source capital)

/-- The name of a definition or an alias: a stem, a mark for its kind, and its position. -/
def name (stem mark : String) (i : Nat) : String := stem ++ "_" ++ mark ++ toString i

/-- The definition at a position. Half of all definitions are keywords before any other category is drawn. -/
def definition (source : Source σ) (i : Nat) : StateM σ Definition := do
  let category ← if ← source.chance half then pure .keyword else pick source Category.all .plain
  let payload ← pick source Payload.all .idOnly
  let name := name (← stem source) "d" i
  let display := if ← source.chance displayChance then some ("display " ++ toString i) else none
  return ⟨name, category, payload, display⟩

def sourceAlias (source : Source σ) (definitions : Array Definition) (i : Nat) : StateM σ Alias := do
  let target ← source.below definitions.size
  let name := name (← stem source) "a" i
  return ⟨name, (definitions[target]?.map (·.name)).getD "", none⟩

/-- A table with so many definitions and aliases. Without definitions there are no aliases. -/
def table (source : Source σ) (definitions aliases : Nat) : StateM σ Table := do
  let rows ← (List.range definitions).mapM (definition source)
  let names ← if rows.isEmpty then pure [] else (List.range aliases).mapM (sourceAlias source rows.toArray)
  return ⟨rows, names⟩

end Lexicon.Random
