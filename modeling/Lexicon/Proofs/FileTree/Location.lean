import Lexicon.FileTree.Disk
import Lexicon.Proofs.Fallible

/-! The location that a path names. It follows from the text of the path alone, so that it can be
spoken of whether or not the directories on the way are there; where a path can be followed, it
leads to this location. Temporary files lie where no path leads. -/
namespace Lexicon

namespace Path

/-- One component of a path, followed without a look at what lies there. -/
def follow (here : Location) (component : String) : Location :=
  if component = "." then here
  else if component = ".." then here.dropLast
  else here ++ [component]

def pieces (p : String) : List String :=
  ((Text.splitAt '/' p.toList).filter (· != [])).map String.ofList

def location (here : Location) (p : String) : Location :=
  (pieces p).foldl follow (if isAbsolute p then [] else here)

/-- One more character begins a new piece, or joins the first one. -/
theorem splitAt_cons (mark c : Char) (cs : List Char) :
    ∃ first rest, Text.splitAt mark cs = first :: rest ∧
    Text.splitAt mark (c :: cs) =
      if c == mark then [] :: first :: rest else (c :: first) :: rest := by
  -- there is always a first piece, if only an empty one
  have hne : ∃ first rest, Text.splitAt mark cs = first :: rest := by
    induction cs with
    | nil => exact ⟨[], [], rfl⟩
    | cons d cs ih =>
      obtain ⟨first, rest, hcs⟩ := ih
      unfold Text.splitAt at hcs ⊢
      rw [List.foldr_cons, hcs]
      split
      · exact ⟨_, _, rfl⟩
      · exact ⟨_, _, rfl⟩
  obtain ⟨first, rest, hcs⟩ := hne
  refine ⟨first, rest, hcs, ?_⟩
  unfold Text.splitAt at hcs ⊢
  rw [List.foldr_cons, hcs]

theorem not_mem_of_mem_splitAt {mark : Char} {cs piece : List Char}
    (h : piece ∈ Text.splitAt mark cs) :
    mark ∉ piece := by
  induction cs generalizing piece with
  | nil =>
    rw [List.eq_of_mem_singleton h]
    exact List.not_mem_nil
  | cons c cs ih =>
    obtain ⟨first, rest, hcs, hcons⟩ := splitAt_cons mark c cs
    rw [hcons] at h
    rw [hcs] at ih
    split at h
    · rcases List.mem_cons.mp h with rfl | h
      · exact List.not_mem_nil
      · exact ih h
    · next hc =>
      -- the character that joins the first piece is not the mark
      have hne : mark ≠ c := fun he => hc (beq_iff_eq.mpr he.symm)
      rcases List.mem_cons.mp h with rfl | h
      · exact List.not_mem_cons_of_ne_of_not_mem hne (ih List.mem_cons_self)
      · exact ih (List.mem_cons_of_mem first h)

/-- The components of a path that name something: all but single dots. -/
def names (p : String) : List String := (pieces p).filter (· ≠ ".")

/-- A path no component of which leads back up. -/
def Descends (p : String) : Prop := ".." ∉ pieces p

instance (p : String) : Decidable (Descends p) := inferInstanceAs (Decidable (_ ∉ _))

theorem slash_not_mem_of_mem_pieces {p piece : String} (h : piece ∈ pieces p) :
    '/' ∉ piece.toList := by
  obtain ⟨cs, hcs, rfl⟩ := List.mem_map.mp h
  rw [String.toList_ofList]
  exact not_mem_of_mem_splitAt (List.mem_filter.mp hcs).1

end Path

namespace FileTree

variable {t : FileTree}

/-- A component that can be entered leads to where its text says. -/
theorem enter_eq_ok {here l : Location} {component : String} (h : t.enter here component = .ok l) :
    l = Path.follow here component := by
  unfold enter at h
  unfold Path.follow
  split at h
  · next hdot => rw [if_pos hdot, Except.ok.inj h]
  split at h
  · next hdot hdots => rw [if_neg hdot, if_pos hdots, Except.ok.inj h]
  split at h
  · exact nomatch h
  · next hdot hdots _ =>
    rw [if_neg hdot, if_neg hdots]
    split at h
    · exact (Except.ok.inj h).symm
    · exact nomatch h
    · exact nomatch h

theorem foldlM_enter_eq_ok {start l : Location} {components : List String}
    (h : components.foldlM t.enter start = .ok l) : l = components.foldl Path.follow start := by
  induction components generalizing start with
  | nil => exact (Except.ok.inj h).symm
  | cons component rest ih =>
    rw [List.foldlM_cons] at h
    obtain ⟨next, hstep, hrest⟩ := Fallible.bind_eq_ok_iff.mp h
    rw [List.foldl_cons, ← enter_eq_ok hstep]
    exact ih hrest

def Goal.location : Goal → Location
  | .directory l => l
  | .name parent last .. => parent ++ [last]

def start (here : Location) (path : String) : Location := if Path.isAbsolute path then [] else here

def arrive (path : String) (parent : Location) (last : String) : Except OsError Goal :=
  if last = "." then .ok (.directory parent)
  else if last = ".." then .ok (.directory parent.dropLast)
  else if maxName < last.utf8ByteSize then .error .nameTooLong
  else .ok (.name parent last (path.toList.getLast? == some '/'))

/-- The last component leads to where its text says, whether or not something lies there. -/
theorem arrive_eq_ok {path last : String} {parent : Location} {goal : Goal}
    (h : arrive path parent last = .ok goal) :
    goal.location = Path.follow parent last ∧
      ∀ parent' last' slash, goal = .name parent' last' slash → last' = last := by
  unfold arrive at h
  unfold Path.follow
  split at h
  · next hdot =>
    rw [if_pos hdot, ← Except.ok.inj h]
    exact ⟨rfl, nofun⟩
  split at h
  · next hdot hdots =>
    rw [if_neg hdot, if_pos hdots, ← Except.ok.inj h]
    exact ⟨rfl, nofun⟩
  split at h
  · exact nomatch h
  · next hdot hdots _ =>
    rw [if_neg hdot, if_neg hdots, ← Except.ok.inj h]
    exact ⟨rfl, fun _ _ _ hgoal => (Goal.name.inj hgoal).2.1.symm⟩

/-- A path that can be followed has no components, or is followed up to its last one and from
there. -/
theorem walk_eq_ok {here : Location} {path : String} {goal : Goal}
    (h : t.walk here path = .ok goal) :
    (Path.pieces path = [] ∧ goal = .directory (start here path)) ∨
    ∃ front last parent, Path.pieces path = front ++ [last] ∧
      front.foldlM t.enter (start here path) = .ok parent ∧
      arrive path parent last = .ok goal := by
  unfold walk at h
  split at h
  · exact nomatch h
  split at h
  · exact nomatch h
  split at h
  · exact nomatch h
  dsimp only at h
  split at h
  · next hlast => exact Or.inl ⟨List.getLast?_eq_none_iff.mp hlast, (Except.ok.inj h).symm⟩
  · next last hlast =>
    obtain ⟨front, hfront⟩ : ∃ front, Path.pieces path = front ++ [last] :=
      List.getLast?_eq_some_iff.mp hlast
    -- the last component is not entered, but arrived at
    change ((Path.pieces path).dropLast.foldlM t.enter (start here path) >>= fun parent =>
      arrive path parent last) = _ at h
    rw [hfront, List.dropLast_concat] at h
    obtain ⟨parent, hparent, hgoal⟩ := Fallible.bind_eq_ok_iff.mp h
    exact Or.inr ⟨front, last, parent, hfront, hparent, hgoal⟩

/-- A path that can be followed leads to the location it names. -/
theorem location_of_walk {here : Location} {path : String} {goal : Goal}
    (h : t.walk here path = .ok goal) :
    goal.location = Path.location here path := by
  rcases walk_eq_ok h with ⟨hpieces, rfl⟩ | ⟨front, last, parent, hpieces, hparent, hgoal⟩
  · rw [Path.location, hpieces]
    rfl
  · rw [(arrive_eq_ok hgoal).1, foldlM_enter_eq_ok hparent, Path.location, hpieces,
      List.foldl_append]
    rfl

theorem slash_not_mem_of_walk {here parent : Location} {path last : String} {slash : Bool}
    (h : t.walk here path = .ok (.name parent last slash)) : '/' ∉ last.toList := by
  rcases walk_eq_ok h with ⟨-, hgoal⟩ | ⟨front, last', parent', hpieces, -, hgoal⟩
  · exact nomatch hgoal
  · obtain rfl := (arrive_eq_ok hgoal).2 _ _ _ rfl
    apply Path.slash_not_mem_of_mem_pieces
    rw [hpieces]
    exact List.mem_append_right front List.mem_cons_self

/-- A path that leads to a name in a directory has that name among its own. -/
theorem names_ne_nil_of_walk {here parent : Location} {path last : String} {slash : Bool}
    (h : t.walk here path = .ok (.name parent last slash)) : Path.names path ≠ [] := by
  rcases walk_eq_ok h with ⟨-, hgoal⟩ | ⟨front, last', parent', hpieces, -, hgoal⟩
  · exact nomatch hgoal
  · have hdot : last' ≠ "." := by
      rintro rfl
      exact nomatch hgoal
    have hlast : last' ∈ Path.names path := by
      apply List.mem_filter.mpr
      rw [hpieces]
      exact ⟨List.mem_append_right front List.mem_cons_self, decide_eq_true hdot⟩
    exact List.ne_nil_of_mem hlast

/-- A location that no path leads to, because its last name has a slash. -/
def Hidden (l : Location) : Prop := ∃ parent last, l = parent ++ [last] ∧ '/' ∈ last.toList

theorem not_hidden_of_walk {here parent : Location} {path last : String} {slash : Bool}
    (h : t.walk here path = .ok (.name parent last slash)) : ¬Hidden (parent ++ [last]) := by
  rintro ⟨parent', last', heq, hslash⟩
  obtain ⟨-, hlast⟩ := List.append_inj' heq rfl
  rw [← List.head_eq_of_cons_eq hlast] at hslash
  exact slash_not_mem_of_walk h hslash

end FileTree

end Lexicon
