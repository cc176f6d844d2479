import Lexicon.Proofs.FileTree.Staging

/-! What writing leaves behind. Each call either does one thing to the tree or fails and does
nothing, and the temporary files of a run that fails are gone. Two files are written together, but
not at once: a failure leaves both destinations as they were, except that of the very last move,
which comes after the first file has been replaced. -/
namespace Lexicon

open Text (Bytes)

namespace FileTree

/-- A directory is made where nothing lies. -/
theorem makeDirectory_eq_ok {t t' : FileTree} {here : Location} {path : String}
    (h : t.makeDirectory here path = .ok t') :
    Path.names path ≠ [] ∧ t.node? (Path.location here path) = none ∧
      t' = t.put (Path.location here path) .directory := by
  unfold makeDirectory at h
  obtain ⟨goal, hwalk, hmake⟩ := Fallible.bind_eq_ok_iff.mp h
  cases goal with
  | directory l => exact nomatch hmake
  | name parent last slash =>
    have hlocation : parent ++ [last] = Path.location here path := location_of_walk hwalk
    dsimp only at hmake
    split at hmake
    · exact nomatch hmake
    · next hnone =>
      rw [← hlocation]
      exact ⟨names_ne_nil_of_walk hwalk, hnone, (Except.ok.inj hmake).symm⟩

/-- A file is moved to the location that its path names, which is never that of a temporary file. -/
theorem moveFile_eq_ok {t t' : FileTree} {here origin : Location} {path : String}
    (h : t.moveFile here origin path = .ok t') :
    ¬Hidden (Path.location here path) ∧ Path.location here path ≠ [] ∧
      ∃ n, t.node? origin = some n ∧ t' = (t.remove origin).put (Path.location here path) n := by
  unfold moveFile at h
  split at h
  · exact nomatch h
  · exact nomatch h
  · exact nomatch h
  · -- the last name has no slash, so that no temporary file lies there
    next parent last slash hwalk =>
    have hlocation : parent ++ [last] = Path.location here path := location_of_walk hwalk
    rw [← hlocation]
    refine ⟨not_hidden_of_walk hwalk, List.append_ne_nil_of_right_ne_nil _ (List.cons_ne_nil _ _),
      ?_⟩
    split at h
    · exact nomatch h
    split at h
    · exact nomatch h
    · next n horigin _ => exact ⟨n, horigin, (Except.ok.inj h).symm⟩
    · exact nomatch h

end FileTree

namespace Writing

variable {α β : Type}

/-- What holds when a run is done, and what holds when it has failed. -/
structure Ends (m : Writing α) (d : Disk) (done : α → Disk → Prop) (failed : Disk → Prop) :
    Prop where
  outcome : match (m d : Except WriteError α × Disk) with
    | (.ok a, d') => done a d'
    | (.error _, d') => failed d'

section
variable {d : Disk} {done : α → Disk → Prop} {failed : Disk → Prop}

theorem Ends.pure {a : α} (h : done a d) : Ends (pure a) d done failed := ⟨h⟩

/-- What follows a run is run where it is done, and left out where it has failed. -/
theorem bind_apply (m : Writing β) (k : β → Writing α) (d : Disk) :
    (m >>= k) d = match (m d : Except WriteError β × Disk) with
      | (.ok b, d') => k b d'
      | (.error e, d') => (.error e, d') := by
  change ((m d : Except WriteError β × Disk) |> fun (r, d') => ExceptT.bindCont k r d') = _
  rcases (m d : Except WriteError β × Disk) with ⟨e | b, d'⟩ <;> rfl

theorem lift_bind_apply (m : StateM Disk β) (k : β → Writing α) (d : Disk) :
    (liftM m >>= k) d = k (m d).1 (m d).2 := rfl

theorem Ends.bind {m : Writing β} {k : β → Writing α} {middle : β → Disk → Prop}
    (hm : Ends m d middle failed)
    (hk : ∀ b d', middle b d' → Ends (k b) d' done failed) : Ends (m >>= k) d done failed := by
  obtain ⟨hm⟩ := hm
  constructor
  rw [bind_apply]
  rcases hresult : (m d : Except WriteError β × Disk) with ⟨e | b, d'⟩
  · rw [hresult] at hm
    exact hm
  · rw [hresult] at hm
    exact (hk b d' hm).outcome

theorem Ends.of_ok {m : Writing α} (hm : Ends m d done failed) {a : α} {d' : Disk}
    (h : m d = (.ok a, d')) : done a d' := by
  have houtcome := hm.outcome
  rw [h] at houtcome
  exact houtcome

theorem Ends.of_error {m : Writing α} (hm : Ends m d done failed) {e : WriteError} {d' : Disk}
    (h : m d = (.error e, d')) : failed d' := by
  have houtcome := hm.outcome
  rw [h] at houtcome
  exact houtcome

theorem Ends.imp {m : Writing α} {done' : α → Disk → Prop} {failed' : Disk → Prop}
    (hm : Ends m d done failed) (hdone : ∀ a d', done a d' → done' a d')
    (hfailed : ∀ d', failed d' → failed' d') : Ends m d done' failed' := by
  obtain ⟨hm⟩ := hm
  constructor
  rcases hresult : (m d : Except WriteError α × Disk) with ⟨e | a, d'⟩
  · rw [hresult] at hm
    exact hfailed d' hm
  · rw [hresult] at hm
    exact hdone a d' hm

theorem Ends.fail {e : WriteError} (h : failed d) : Ends (throw e : Writing α) d done failed := ⟨h⟩

/-- A run that leaves a property of the disk as it is, and answers like this. -/
def Keeps (P : Disk → Prop) (m : StateM Disk α) (answers : α → Prop) : Prop :=
  ∀ d, P d → answers (m d).1 ∧ P (m d).2

theorem Keeps.bind {P : Disk → Prop} {m : StateM Disk β} {k : β → StateM Disk α}
    {answers : α → Prop} {between : β → Prop} (hm : Keeps P m between)
    (hk : ∀ b, between b → Keeps P (k b) answers) : Keeps P (m >>= k) answers := by
  intro d hd
  obtain ⟨hbetween, hmiddle⟩ := hm d hd
  exact hk (m d).1 hbetween (m d).2 hmiddle

theorem Keeps.pure {P : Disk → Prop} {answers : α → Prop} {a : α} (h : answers a) :
    Keeps P (pure a) answers :=
  fun _ hd => ⟨h, hd⟩

theorem Keeps.ends {P : Disk → Prop} {m : StateM Disk α} {answers : α → Prop}
    (hm : Keeps P m answers) (hd : P d) :
    Ends (liftM m) d (fun a d' => answers a ∧ P d') failed :=
  ⟨hm d hd⟩

theorem Ends.guarding {m : Writing α} {l : Location} {failed' : Disk → Prop}
    (hm : Ends m d done failed')
    (h : ∀ d', failed' d' → failed (discard l d').2) : Ends (guarding l m) d done failed := by
  obtain ⟨hm⟩ := hm
  constructor
  unfold Writing.guarding
  rcases hresult : (m d : Except WriteError α × Disk) with ⟨e | a, d'⟩
  · rw [hresult] at hm
    exact h d' hm
  · rw [hresult] at hm
    exact hm

/-- One call does what it is asked for, or leaves the tree as it is. -/
theorem call_cases (f : FileTree → Location → Except OsError (FileTree × α)) (d : Disk) :
    (∃ tree a mishaps, f d.tree d.here = .ok (tree, a) ∧
      call f d = (.ok a, ⟨tree, d.here, mishaps⟩)) ∨
      ∃ e mishaps, call f d = (.error e, ⟨d.tree, d.here, mishaps⟩) := by
  unfold call
  cases d.mishaps.headD none with
  | some e => exact Or.inr ⟨e, _, rfl⟩
  | none =>
    cases hf : f d.tree d.here with
    | error e => exact Or.inr ⟨e, _, rfl⟩
    | ok result => exact Or.inl ⟨result.1, result.2, _, rfl, rfl⟩

/-- A call on behalf of a path does its work, or fails and leaves the tree as it was. -/
theorem Ends.onBehalf {path : String} {f : FileTree → Location → Except OsError (FileTree × α)}
    (hdone : ∀ tree a mishaps, f d.tree d.here = .ok (tree, a) → done a ⟨tree, d.here, mishaps⟩)
    (hfailed : ∀ mishaps, failed ⟨d.tree, d.here, mishaps⟩) :
    Ends (onBehalf path f) d done failed := by
  constructor
  rcases call_cases f d with ⟨tree, a, mishaps, hf, hcall⟩ | ⟨e, mishaps, hcall⟩
  · have hrun : Writing.onBehalf path f d = (.ok a, ⟨tree, d.here, mishaps⟩) := by
      unfold Writing.onBehalf
      rw [lift_bind_apply, hcall]
      rfl
    rw [hrun]
    exact hdone tree a mishaps hf
  · have hrun : Writing.onBehalf path f d = (.error ⟨path, e⟩, ⟨d.tree, d.here, mishaps⟩) := by
      unfold Writing.onBehalf
      rw [lift_bind_apply, hcall]
      rfl
    rw [hrun]
    exact hfailed mishaps

end

/-- The locations on the way to a path: those of the directories that lead to it. -/
def OnTheWay (here : Location) (path : String) (l : Location) : Prop :=
  ∃ directory ∈ ancestors (directoryOf path).length (directoryOf path),
    Path.location here directory = l

/-- The way takes in every directory that may be made for a path. -/
def Covers (here : Location) (way : Location → Prop) (path : String) : Prop :=
  ∀ directory ∈ ancestors (directoryOf path).length (directoryOf path),
    Path.names directory ≠ [] → way (Path.location here directory)

/-- A disk whose tree is a given one with temporary files in it, and with more directories. -/
structure Holds (t : FileTree) (here : Location) (way : Location → Prop)
    (temporaries : List (Location × Bytes)) (d : Disk) : Prop where
  staged : t.Staged way temporaries d.tree
  here : d.here = here

section
variable {t : FileTree} {here : Location} {way : Location → Prop}
variable {temporaries : List (Location × Bytes)}

theorem keeps_isDirectory (path : String) :
    Keeps (Holds t here way temporaries) (isDirectory path) fun _ => True :=
  fun _ hd => ⟨trivial, hd⟩

theorem keeps_makeDirectory {path : String}
    (hpath : Path.names path ≠ [] → way (Path.location here path)) :
    Keeps (Holds t here way temporaries)
      (call fun t here => (t.makeDirectory here path).map fun t => (t, ())) fun _ => True := by
  intro d hd
  refine ⟨trivial, ?_⟩
  rcases call_cases (fun t here => (t.makeDirectory here path).map fun t => (t, ())) d with
    ⟨tree, a, mishaps, hf, hcall⟩ | ⟨e, mishaps, hcall⟩
  · rw [hcall]
    obtain ⟨t', hmake, hpair⟩ := Fallible.map_eq_ok_iff.mp hf
    obtain ⟨rfl, -⟩ := Prod.mk.inj hpair
    obtain ⟨hnames, hfree, rfl⟩ := FileTree.makeDirectory_eq_ok hmake
    rw [hd.here] at hfree ⊢
    exact ⟨hd.staged.makeDirectory (hpath hnames) hfree, rfl⟩
  · rw [hcall]
    exact ⟨hd.staged, hd.here⟩

theorem keeps_askDirectory {path : String}
    (hpath : Path.names path ≠ [] → way (Path.location here path)) :
    Keeps (Holds t here way temporaries) (askDirectory path) fun _ => True := by
  apply Keeps.bind (keeps_makeDirectory hpath)
  intro answer _
  split
  · exact Keeps.pure trivial
  · exact Keeps.pure trivial
  · exact Keeps.bind (keeps_isDirectory path) fun _ _ => Keeps.pure trivial

/-- What is missing are some of the directories that were asked for. -/
theorem keeps_missingDirectories {paths missing : List String}
    (hpaths : ∀ p ∈ paths, Path.names p ≠ [] → way (Path.location here p))
    (hmissing : ∀ p ∈ missing, Path.names p ≠ [] → way (Path.location here p)) :
    Keeps (Holds t here way temporaries) (missingDirectories missing paths) fun answer =>
      ∀ found, answer = .ok found → ∀ p ∈ found, Path.names p ≠ [] →
        way (Path.location here p) := by
  induction paths generalizing missing with
  | nil => exact Keeps.pure fun _ h => Except.ok.inj h ▸ hmissing
  | cons path outer ih =>
    obtain ⟨hpath, houter⟩ := List.forall_mem_cons.mp hpaths
    apply Keeps.bind (keeps_askDirectory hpath)
    intro answer _
    split
    · exact Keeps.pure nofun
    · exact Keeps.pure fun _ h => Except.ok.inj h ▸ hmissing
    · exact ih houter (List.forall_mem_cons.mpr ⟨hpath, hmissing⟩)

/-- Making directories fails or succeeds, and either way nothing but directories is gained. -/
theorem keeps_makeMissing {paths : List String}
    (hpaths : ∀ p ∈ paths, Path.names p ≠ [] → way (Path.location here p)) :
    Keeps (Holds t here way temporaries) (makeMissing paths) fun _ => True := by
  induction paths with
  | nil => exact Keeps.pure trivial
  | cons path inner ih =>
    obtain ⟨hpath, hinner⟩ := List.forall_mem_cons.mp hpaths
    -- a directory that is there already is no failure
    apply Keeps.bind (keeps_makeDirectory hpath)
    intro answer _
    split
    · exact ih hinner
    · apply Keeps.bind (keeps_isDirectory path)
      intro found _
      split
      · exact ih hinner
      · exact Keeps.pure trivial

/-- Directories on the way are made, and nothing else happens, however far that goes. -/
theorem makeDirectories_ends {path : String}
    (hpath : ∀ p ∈ ancestors path.length path, Path.names p ≠ [] → way (Path.location here p))
    {d : Disk} (hd : Holds t here way temporaries d) :
    Ends (makeDirectories path) d (fun _ => Holds t here way temporaries)
      (Holds t here way temporaries) := by
  refine Ends.bind ((keeps_missingDirectories hpath (List.forall_mem_nil _)).ends hd)
    fun answer d₁ ⟨hmissing, hd₁⟩ => ?_
  cases answer with
  | error cause => exact Ends.fail hd₁
  | ok missing =>
    refine Ends.bind ((keeps_makeMissing (hmissing missing rfl)).ends hd₁)
      fun made d₂ ⟨_, hd₂⟩ => ?_
    split
    · exact Ends.fail hd₂
    · exact Ends.pure hd₂

theorem makeTemporary_ends (path directory : String) {d : Disk}
    (hd : Holds t here way temporaries d) :
    Ends (onBehalf path (makeTemporary directory)) d
      (fun l => Holds t here way ((l, []) :: temporaries)) (Holds t here way temporaries) := by
  refine Ends.onBehalf ?_ ?_
  · intro tree l mishaps h
    unfold makeTemporary at h
    obtain ⟨⟨at', file | directory⟩, -, hmake⟩ := Fallible.bind_eq_ok_iff.mp h
    · exact nomatch hmake
    · obtain ⟨rfl, rfl⟩ := Prod.mk.inj (Except.ok.inj hmake)
      obtain ⟨hfree, hhidden⟩ := freshName_spec d.tree at'
      exact ⟨hd.staged.create hfree hhidden, hd.here⟩
  · intro mishaps
    exact ⟨hd.staged, hd.here⟩

theorem Holds.discard {l : Location} {bytes : Bytes} {d : Disk}
    (hd : Holds t here way ((l, bytes) :: temporaries) d) :
    Holds t here way temporaries (discard l d).2 :=
  ⟨hd.staged.discard, hd.here⟩

/-- Staging leaves a temporary file that is complete, or none. -/
theorem stage_ends {path : String} (hpath : Covers here way path) (bytes : Bytes) {d : Disk}
    (hd : Holds t here way temporaries d) :
    Ends (stage path bytes) d (fun l => Holds t here way ((l, bytes) :: temporaries))
      (Holds t here way temporaries) := by
  unfold stage
  dsimp only
  have hdirectories := makeDirectories_ends hpath hd
  refine Ends.bind hdirectories fun _ d₁ hd₁ => ?_
  refine Ends.bind (makeTemporary_ends path (directoryOf path) hd₁) fun l d₂ hd₂ => ?_
  -- the file is empty or whole when one of the two calls fails, and thrown away in both cases
  have hcalls : Ends (do
      onBehalf path fun t _ => .ok (t.put l (.file bytes false), ())
      onBehalf path fun t _ => .ok (t, ())) d₂
      (fun _ => Holds t here way ((l, bytes) :: temporaries))
      (fun d => ∃ content, Holds t here way ((l, content) :: temporaries) d) := by
    have hwrite : Ends (onBehalf path fun t _ => .ok (t.put l (.file bytes false), ())) d₂
        (fun _ => Holds t here way ((l, bytes) :: temporaries))
        (fun d => ∃ content, Holds t here way ((l, content) :: temporaries) d) := by
      refine Ends.onBehalf ?_ ?_
      · rintro tree _ mishaps ⟨⟩
        exact ⟨hd₂.staged.fill bytes, hd₂.here⟩
      · intro mishaps
        exact ⟨[], hd₂.staged, hd₂.here⟩
    refine Ends.bind hwrite fun _ d₃ hd₃ => Ends.onBehalf ?_ ?_
    · rintro tree _ mishaps ⟨⟩
      exact ⟨hd₃.staged, hd₃.here⟩
    · intro mishaps
      exact ⟨bytes, hd₃.staged, hd₃.here⟩
  refine Ends.bind (Ends.guarding hcalls fun d₃ ⟨_, hd₃⟩ => hd₃.discard) fun _ d₃ hd₃ => ?_
  exact Ends.pure hd₃

/-- A disk with these bytes at the location that a path names. -/
structure Moved (t : FileTree) (here : Location) (way : Location → Prop) (path : String)
    (bytes : Bytes) (temporaries : List (Location × Bytes)) (d : Disk) : Prop where
  holds : Holds (t.put (Path.location here path) (.file bytes false)) here way temporaries d
  location_ne_nil : Path.location here path ≠ []
  not_hidden : ¬FileTree.Hidden (Path.location here path)

/-- Moving puts the bytes of a temporary file at the destination, or leaves it as it is; the
temporary file is gone. -/
theorem persist_ends {l : Location} {bytes : Bytes} (path : String) {d : Disk}
    (hd : Holds t here way ((l, bytes) :: temporaries) d) : Ends (persist l path) d
      (fun _ => Moved t here way path bytes temporaries) (Holds t here way temporaries) := by
  have hmove : Ends (onBehalf path fun t here => (t.moveFile here l path).map fun t => (t, ())) d
      (fun _ => Moved t here way path bytes temporaries)
      (Holds t here way ((l, bytes) :: temporaries)) := by
    refine Ends.onBehalf ?_ ?_
    · intro tree _ mishaps h
      obtain ⟨t', hmoved, hpair⟩ := Fallible.map_eq_ok_iff.mp h
      obtain ⟨rfl, -⟩ := Prod.mk.inj hpair
      obtain ⟨hhidden, hne, n, hn, rfl⟩ := FileTree.moveFile_eq_ok hmoved
      -- what is moved are the bytes that were staged
      rw [hd.staged.written (l, bytes) List.mem_cons_self, Option.some.injEq] at hn
      rw [← hn, hd.here]
      rw [hd.here] at hhidden hne
      exact ⟨⟨hd.staged.move hhidden hne, rfl⟩, hne, hhidden⟩
    · intro mishaps
      exact ⟨hd.staged, hd.here⟩
  exact Ends.guarding hmove fun d₁ hd₁ => hd₁.discard

/-- All of the calls but the last: both files are staged, and the first is moved. -/
def writeFirst (first : String) (firstBytes : Bytes) (second : String) (secondBytes : Bytes) :
    Writing Location := do
  let stagedFirst ← stage first firstBytes
  let stagedSecond ← guarding stagedFirst (stage second secondBytes)
  guarding stagedSecond (persist stagedFirst first)
  return stagedSecond

theorem writePair_eq (first : String) (firstBytes : Bytes) (second : String) (secondBytes : Bytes) :
    writePair first firstBytes second secondBytes =
      writeFirst first firstBytes second secondBytes >>= fun staged => persist staged second := by
  simp only [writePair, writeFirst, bind_assoc, pure_bind]

def OnEitherWay (here : Location) (first second : String) (l : Location) : Prop :=
  OnTheWay here first l ∨ OnTheWay here second l

/-- All calls of a pair but the last one: the first file is in place and the second one is staged.
-/
theorem writeFirst_ends {first second : String} (firstBytes secondBytes : Bytes)
    (hfirst : Covers here way first) (hsecond : Covers here way second) {d : Disk}
    (hd : Holds t here way [] d) :
    Ends (writeFirst first firstBytes second secondBytes) d
      (fun l => Moved t here way first firstBytes [(l, secondBytes)]) (Holds t here way []) := by
  unfold writeFirst
  refine Ends.bind (stage_ends hfirst firstBytes hd) fun l₁ d₁ hd₁ => ?_
  -- if the second file cannot be staged, the first temporary file is thrown away
  have hstage : Ends (guarding l₁ (stage second secondBytes)) d₁
      (fun l₂ => Holds t here way [(l₂, secondBytes), (l₁, firstBytes)]) (Holds t here way []) :=
    Ends.guarding (stage_ends hsecond secondBytes hd₁) fun _ hd₂ => Holds.discard hd₂
  refine Ends.bind hstage fun l₂ d₂ hd₂ => ?_
  -- the first temporary file is the next one to be moved
  have hswapped : Holds t here way [(l₁, firstBytes), (l₂, secondBytes)] d₂ :=
    ⟨hd₂.staged.perm (List.Perm.swap _ _ _), hd₂.here⟩
  have hmove : Ends (guarding l₂ (persist l₁ first)) d₂
      (fun _ => Moved t here way first firstBytes [(l₂, secondBytes)]) (Holds t here way []) :=
    Ends.guarding (persist_ends first hswapped) fun _ hd₃ => Holds.discard hd₃
  refine Ends.bind hmove fun _ d₃ hd₃ => ?_
  exact Ends.pure hd₃

end

/-- Every call before the last one succeeds. -/
def FirstMoved (first : String) (firstBytes : Bytes) (second : String) (secondBytes : Bytes)
    (d : Disk) : Prop :=
  ∃ staged d', writeFirst first firstBytes second secondBytes d = (.ok staged, d')

end Writing

def Disk.node? (d : Disk) (path : String) : Option Node := d.tree.node? (Path.location d.here path)

/-- A directory lies where a path names nothing before. -/
def Disk.Gains (d d' : Disk) (path : String) : Prop :=
  d.node? path = none ∧ d'.node? path = some .directory

namespace Disk

variable {d d' : Disk} {path : String}

theorem not_gains (h : d'.node? path = d.node? path) : ¬d.Gains d' path := by
  rintro ⟨hnone, hdirectory⟩
  rw [hnone, hdirectory] at h
  exact nomatch h

theorem node?_eq_iff {way : Location → Prop} (h : d.tree.Grows way d'.tree)
    (hhere : d'.here = d.here) : d'.node? path = d.node? path ↔ ¬d.Gains d' path := by
  rw [Gains, node?, node?, hhere]
  exact h.node?_eq_iff _

end Disk

namespace Writing

variable {first second : String} {firstBytes secondBytes : Bytes} {d d' : Disk} {e : WriteError}

/-- A pair fails before the first file is in place, or at the move of the second one. -/
theorem writePair_error_cases
    (h : writePair first firstBytes second secondBytes d = (.error e, d')) :
    (¬FirstMoved first firstBytes second secondBytes d ∧
      Holds d.tree d.here (OnEitherWay d.here first second) [] d') ∨
    (FirstMoved first firstBytes second secondBytes d ∧
      Moved d.tree d.here (OnEitherWay d.here first second) first firstBytes [] d') := by
  have hcoversFirst : Covers d.here (OnEitherWay d.here first second) first :=
    fun directory hdirectory _ => Or.inl ⟨directory, hdirectory, rfl⟩
  have hcoversSecond : Covers d.here (OnEitherWay d.here first second) second :=
    fun directory hdirectory _ => Or.inr ⟨directory, hdirectory, rfl⟩
  have hfirst := writeFirst_ends firstBytes secondBytes hcoversFirst hcoversSecond
    ⟨FileTree.Staged.refl d.tree, rfl⟩
  rw [writePair_eq, bind_apply] at h
  cases hrun :
      (writeFirst first firstBytes second secondBytes d : Except WriteError Location × Disk) with
  | mk answer d₁ =>
    rw [hrun] at h
    cases answer with
    | error e₁ =>
      -- an earlier call has failed, and the last one is not made
      obtain ⟨-, rfl⟩ := Prod.mk.inj h
      refine Or.inl ⟨?_, hfirst.of_error hrun⟩
      rintro ⟨staged, d₂, hmoved⟩
      exact nomatch (Prod.mk.inj (hrun.symm.trans hmoved)).1
    | ok staged =>
      -- the error is that of the last call, with the first file in place
      have hmoved := hfirst.of_ok hrun
      have hlast := (persist_ends second hmoved.holds).of_error h
      exact Or.inr ⟨⟨staged, d₁, hrun⟩, hlast, hmoved.location_ne_nil, hmoved.not_hidden⟩

/-- A failure leaves what both paths name as it was, unless the first file has been moved by then
and is not what it was before, or a path names a directory that was made on the way. Nothing else
changes but for directories on the way to one of them. -/
theorem writePair_error_keeps_iff
    (h : writePair first firstBytes second secondBytes d = (.error e, d')) :
    ((d'.node? first = d.node? first ∧ d'.node? second = d.node? second) ↔
      (FirstMoved first firstBytes second secondBytes d →
        d.node? first = some (.file firstBytes false)) ∧
      ¬d.Gains d' first ∧ ¬d.Gains d' second) ∧
    (¬FirstMoved first firstBytes second secondBytes d →
      d.tree.Grows (OnEitherWay d.here first second) d'.tree) ∧
    (FirstMoved first firstBytes second secondBytes d →
      (d.tree.put (Path.location d.here first) (.file firstBytes false)).Grows
        (OnEitherWay d.here first second) d'.tree) := by
  rcases writePair_error_cases h with ⟨hnot, hholds⟩ | ⟨hmoved, hholds, hne, -⟩
  · have hgrows := hholds.staged.grows
    refine ⟨?_, fun _ => hgrows, fun hmoved => absurd hmoved hnot⟩
    rw [Disk.node?_eq_iff hgrows hholds.here, Disk.node?_eq_iff hgrows hholds.here]
    exact ⟨fun hkept => ⟨fun hmoved => absurd hmoved hnot, hkept⟩, fun hkept => hkept.2⟩
  · have hgrows := hholds.staged.grows
    refine ⟨?_, fun hnot => absurd hmoved hnot, fun _ => hgrows⟩
    constructor
    · rintro ⟨hfirst, hsecond⟩
      refine ⟨fun _ => ?_, Disk.not_gains hfirst, Disk.not_gains hsecond⟩
      rw [← hfirst, Disk.node?, hholds.here]
      exact hgrows.node?_eq_some (FileTree.node?_put_self _ hne _)
    · rintro ⟨hheld, hkept⟩
      -- the move has put in place what was there, so that only directories can be new
      have hsame := hgrows.of_eq (FileTree.node?_put_of_held hne (hheld hmoved))
      rw [Disk.node?_eq_iff hsame hholds.here, Disk.node?_eq_iff hsame hholds.here]
      exact hkept

/-- A disk with a header, and with a directory where the source is to go. -/
def blockedSource : Disk :=
  ⟨⟨[(["h.h"], .file (Text.utf8 "previous") false), (["s.c"], .directory)]⟩, [], []⟩

/-- The very last move fails there, after the header has been replaced. -/
theorem writePair_blockedSource :
    ∃ d', writePair "h.h" (Text.utf8 "header") "s.c" (Text.utf8 "source") blockedSource =
      (.error ⟨"s.c", .isDirectory⟩, d') ∧
      d'.node? "h.h" = some (.file (Text.utf8 "header") false) :=
  ⟨_, rfl, rfl⟩

theorem writePair_blockedSource_loses_header : "h.h" ≠ "s.c" ∧
    ∃ e d', writePair "h.h" (Text.utf8 "header") "s.c" (Text.utf8 "source") blockedSource =
      (.error e, d') ∧
      ¬(d'.node? "h.h" = blockedSource.node? "h.h" ∧
        d'.node? "s.c" = blockedSource.node? "s.c") := by
  obtain ⟨d', hrun, hheader⟩ := writePair_blockedSource
  have hbefore : blockedSource.node? "h.h" = some (.file (Text.utf8 "previous") false) := rfl
  refine ⟨by decide, _, d', hrun, ?_⟩
  rintro ⟨hkept, -⟩
  rw [hheader, hbefore] at hkept
  exact absurd hkept (by decide)

theorem writePair_blockedSource_keeps_iff :
    ∃ e d', writePair "h.h" (Text.utf8 "header") "s.c" (Text.utf8 "source") blockedSource =
      (.error e, d') ∧
      ((d'.node? "h.h" = blockedSource.node? "h.h" ∧ d'.node? "s.c" = blockedSource.node? "s.c") ↔
        (FirstMoved "h.h" (Text.utf8 "header") "s.c" (Text.utf8 "source") blockedSource →
          blockedSource.node? "h.h" = some (.file (Text.utf8 "header") false)) ∧
        ¬blockedSource.Gains d' "h.h" ∧ ¬blockedSource.Gains d' "s.c") := by
  obtain ⟨d', hrun, -⟩ := writePair_blockedSource
  exact ⟨_, d', hrun, (writePair_error_keeps_iff hrun).1⟩

end Writing

end Lexicon
