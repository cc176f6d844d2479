namespace Lexicon.Bounded

/-- A difference of counts. There is none if more is taken away than there is. -/
def minus? (count less : Nat) : Option Nat := if less ≤ count then some (count - less) else none

theorem minus?_of_le {count less : Nat} (h : less ≤ count) : minus? count less = some (count - less) := if_pos h

/-- The items before a position. There are none to speak of if the position lies past the end. -/
def front? {α : Type} (items : List α) (stop : Nat) : Option (List α) :=
  if stop ≤ items.length then some (items.take stop) else none

theorem front?_of_le {α : Type} {items : List α} {stop : Nat} (h : stop ≤ items.length) :
    front? items stop = some (items.take stop) := if_pos h

end Lexicon.Bounded
