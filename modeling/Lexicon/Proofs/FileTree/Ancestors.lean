import Mathlib.Data.List.TakeWhile
import Lexicon.Proofs.FileTree.Writing

namespace Lexicon

namespace Path

def words (cs : List Char) : List (List Char) :=
  ((Text.splitAt '/' cs).filter (· != [])).filter (· != ['.'])

theorem splitAt_eq_splitOn (mark : Char) (cs : List Char) :
    Text.splitAt mark cs = cs.splitOn mark := by
  induction cs with
  | nil => rfl
  | cons c cs ih =>
    obtain ⟨first, rest, hcs, hcons⟩ := splitAt_cons mark c cs
    rw [hcons, List.splitOn_cons_eq_if_modifyHead, ← ih, hcs]
    rfl

theorem foldl_follow {components : List String} (h : ".." ∉ components) (start : Location) :
    components.foldl follow start = start ++ components.filter (· ≠ ".") := by
  induction components generalizing start with
  | nil => exact (List.append_nil start).symm
  | cons component rest ih =>
    obtain ⟨hne, hrest⟩ := List.ne_and_not_mem_of_not_mem_cons h
    rw [List.foldl_cons, ih hrest, follow, List.filter_cons]
    by_cases hdot : component = "."
    · simp [hdot]
    · simp [hdot, hne.symm]

/-- A path that descends names the location that its names lead to. -/
theorem location_of_descends {here : Location} {p : String} (h : Descends p) :
    location here p = FileTree.start here p ++ names p :=
  foldl_follow h _

end Path

end Lexicon
