import Mathlib.Data.List.Induction
import Mathlib.Data.List.Pairwise
import Lexicon.Proofs.FileTree.Ancestors

namespace Lexicon

open Text (Bytes)

structure Output where
  path : String
  bytes : Bytes

namespace Output

def location (here : Location) (o : Output) : Location := Path.location here o.path

end Output

namespace Path

/-- Neither path names a location at or below that of the other. -/
def Apart (here : Location) (p q : String) : Prop :=
  ¬location here p <+: location here q ∧ ¬location here q <+: location here p

instance (here : Location) (p q : String) : Decidable (Apart here p q) :=
  inferInstanceAs (Decidable (_ ∧ _))

theorem Apart.symm {here : Location} {p q : String} (h : Apart here p q) : Apart here q p :=
  ⟨h.2, h.1⟩

/-- Paths that lead down to different places, none of them on the way to another. -/
structure Separate (here : Location) (paths : List String) : Prop where
  descend : ∀ p ∈ paths, Descends p
  apart : paths.Pairwise (Apart here)

/-- Whether two paths that start in the same place are apart can be read off their names. -/
theorem apart_iff {here : Location} {p q : String} (hp : Descends p) (hq : Descends q)
    (h : isAbsolute p = isAbsolute q) :
    Apart here p q ↔ ¬names p <+: names q ∧ ¬names q <+: names p := by
  have hstart : FileTree.start here p = FileTree.start here q := by
    rw [FileTree.start, FileTree.start, h]
  rw [Apart, location_of_descends hp, location_of_descends hq, hstart,
    List.prefix_append_right_inj, List.prefix_append_right_inj]

end Path

namespace FileTree

variable {t : FileTree} {here l : Location} {outputs : List Output}

/-- The tree after outputs have been put in place, one after the other. -/
def place (t : FileTree) (here : Location) (outputs : List Output) : FileTree :=
  outputs.foldl (fun t o => t.put (o.location here) (.file o.bytes false)) t

end FileTree

namespace Writing

structure Replaced (t : FileTree) (here : Location) (way : Location → Prop)
    (outputs : List Output) (d : Disk) : Prop where
  holds : Holds (t.place here outputs) here way [] d
  location_ne_nil : ∀ o ∈ outputs, o.location here ≠ []
  not_hidden : ∀ o ∈ outputs, ¬FileTree.Hidden (o.location here)

/-- A disk on which the first outputs have been put in place, but not all of them. -/
def ReplacedInPart (t : FileTree) (here : Location) (way : Location → Prop)
    (outputs : List Output) (d : Disk) : Prop :=
  ∃ count < outputs.length, Replaced t here way (outputs.take count) d

section
variable {t : FileTree} {here : Location} {way : Location → Prop} {outputs : List Output}
variable {o o' : Output} {d : Disk}

theorem Replaced.nil (hd : Holds t here way [] d) : Replaced t here way [] d := ⟨hd, nofun, nofun⟩

theorem ReplacedInPart.append (h : ReplacedInPart t here way outputs d) (rest : List Output) :
    ReplacedInPart t here way (outputs ++ rest) d := by
  obtain ⟨count, hcount, hd⟩ := h
  refine ⟨count, ?_, ?_⟩
  · rw [List.length_append]
    omega
  · rwa [List.take_append_of_le_length hcount.le]

end

end Writing

end Lexicon
