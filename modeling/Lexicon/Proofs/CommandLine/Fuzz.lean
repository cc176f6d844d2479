import Lexicon.CommandLine.Fuzz
import Lexicon.Proofs.Artifact.StampLine
import Lexicon.Proofs.FileTree.Ancestors
import Lexicon.Proofs.Generation.Preparation
import Lexicon.Proofs.Random.Table

namespace Lexicon

/-- Drawn names are short, so that the header has room for them. -/
theorem Random.Drawn.namesFit {n aliases : Nat} {t : Table} (ht : Drawn n aliases t)
    (hn : n ≤ 65536) : ∀ d ∈ t.definitions, d.NameFits := by
  intro d hd
  obtain ⟨i, hi, hname⟩ := exists_of_mem ht.definitions hd
  have hlength := hname.length_le (by decide) (Nat.lt_of_lt_of_le (List.mem_range.mp hi) hn)
  rw [Definition.NameFits, (hname.wellFormed (by decide)).length_utf8]
  omega

namespace CommandLine

open Artifact

/-- Two headers of one compiled table differ in the lines of their stamps at most. -/
theorem differOnlyInStamp_header (c : Compiled) (stamp stamp' : UInt64) :
    differOnlyInStamp (Header.wholeText c stamp) (Header.wholeText c stamp') = true := by
  obtain ⟨closing, hclosing⟩ := Header.exists_lines_eq c
  have hlines (stamp : UInt64) : Text.splitAt '\n' (Header.wholeText c stamp).toList =
      Header.openingLines ++ (Header.stampLine stamp).line :: closing := by
    rw [Path.splitAt_eq_splitOn]
    exact hclosing stamp
  -- lines that do not depend on the stamp are compared with themselves
  have hsame (ls : List (List Char)) (p : List Char × List Char → Bool) (hp : ∀ l, p (l, l) = true) :
      (ls.zip ls).all p = true := by
    induction ls with
    | nil => rfl
    | cons l ls ih => rw [List.zip_cons_cons, List.all_cons, hp, ih, Bool.and_self]
  have hstamp (stamp : UInt64) : "#define TOKEN_ITERATION_VERSION ".toList.isPrefixOf
      (Header.stampLine stamp).line = true := by
    have hprefix : "#define TOKEN_ITERATION_VERSION ".toList <+:
        "#define TOKEN_ITERATION_VERSION 0x".toList := by decide
    rw [Header.stampLine_eq, List.isPrefixOf_iff_prefix]
    exact hprefix.trans (List.prefix_append _ _)
  rw [differOnlyInStamp]
  dsimp only
  rw [hlines, hlines, List.zip_append rfl, List.all_append, List.zip_cons_cons, List.all_cons,
    hsame _ _ (by simp), hsame _ _ (by simp)]
  simp only [List.length_append, List.length_cons, hstamp, BEq.rfl, Bool.and_self, Bool.or_true]

theorem differOnlyInStamp_artifacts {c : Compiled} {stamp stamp' : UInt64} {a a' : Artifacts}
    (h : Artifacts.ofCompiled? c stamp = some a) (h' : Artifacts.ofCompiled? c stamp' = some a') :
    differOnlyInStamp a.header a'.header = true ∧ a.source = a'.source := by
  obtain ⟨-, rfl⟩ := Artifacts.ofCompiled?_eq_some_iff.mp h
  obtain ⟨-, rfl⟩ := Artifacts.ofCompiled?_eq_some_iff.mp h'
  exact ⟨differOnlyInStamp_header c stamp stamp', rfl⟩

/-! ### Commands that do not fail -/

/-- A command ends with an answer, whatever it finds. -/
def Command.Yields (command : Command α) (a : α) : Prop :=
  ∀ terminal, ∃ terminal', command terminal = (.ok a, terminal')

namespace Command.Yields

variable {α β : Type}

theorem pure (a : α) : Yields (pure a) a := fun terminal => ⟨terminal, rfl⟩

theorem bind {x : Command α} {f : α → Command β} {a : α} {b : β} (hx : Yields x a)
    (hf : Yields (f a) b) : Yields (x >>= f) b := by
  intro terminal
  obtain ⟨terminal', h⟩ := hx terminal
  obtain ⟨terminal'', h'⟩ := hf terminal'
  refine ⟨terminal'', ?_⟩
  change ExceptT.bindCont f (x terminal).1 (x terminal).2 = _
  rw [h]
  exact h'

theorem complain (text : String) : Yields (Command.complain text) () :=
  fun terminal => ⟨{ terminal with stderr := terminal.stderr ++ text }, rfl⟩

theorem log (m : Log.Message) : Yields (Command.log m) () := by
  intro terminal
  change ∃ terminal', (if terminal.filter.allows m = true then Command.complain m.line
    else Pure.pure ()) terminal = (.ok (), terminal')
  split
  · exact complain m.line terminal
  · exact pure () terminal

theorem forM {xs : List α} {f : α → Command PUnit} (hf : ∀ x ∈ xs, Yields (f x) ⟨⟩) :
    Yields (xs.forM f) ⟨⟩ := by
  induction xs with
  | nil => exact pure _
  | cons x xs ih =>
    obtain ⟨hx, hxs⟩ := List.forall_mem_cons.mp hf
    exact hx.bind (ih hxs)

theorem modify (f : Terminal → Terminal) : Yields (modify f : Command Unit) () :=
  fun terminal => ⟨f terminal, rfl⟩

theorem openLog (v : Settings.Variables) : Yields (Command.openLog v) () :=
  (forM fun _ _ => complain _).bind (modify _)

theorem ofExcept {ε : Type} (failure : ε → Failure) (a : α) :
    Yields (Command.ofExcept failure (.ok a)) a :=
  pure a

theorem ofStopped {ε : Type} (failure : ε → Failure) (a : α) :
    Yields (Command.ofStopped failure (.ok a)) a :=
  pure a

theorem orHalt {o : Option α} {a : α} (h : o = some a) : Yields (orHalt o : Command α) a := by
  subst h
  exact pure a

/-- The exit code of a command that does not fail is its answer. -/
theorem exit_execute {command : Command Nat} {exit : Nat} (h : Yields command exit) (disk : Disk) :
    (command.execute disk).exit = exit := by
  obtain ⟨terminal, hterminal⟩ := h { disk }
  rw [Command.execute, hterminal]

end Command.Yields

/-! ### Random tables -/

open Command

theorem yields_compiling {t : Table} {c : Compiled} (h : t.compile = .ok c) :
    Yields (compiling t) c := by
  rw [compiling, h]
  exact (Yields.ofExcept _ c).bind ((Yields.forM fun m _ => .log m).bind (.pure c))

/-- A table is examined to the end if it compiles and no name is too long for the header. -/
theorem yields_examine (options : Settings.Fuzzing) (i definitions aliases : Nat) {t : Table}
    (h : t.Acceptable) (hfit : ∀ d ∈ t.definitions, d.NameFits) :
    Yields (examine options i definitions aliases t) () := by
  have hcompile : t.compile = .ok (Compiled.ofTable t) := (Table.compile_eq_ok_iff t _).mpr ⟨h, rfl⟩
  obtain ⟨hrepr, haudit⟩ := Table.compile_represents hcompile
  obtain ⟨first, hfirst⟩ := (hrepr.exists_artifacts_iff 1).mpr hfit
  obtain ⟨other, hother⟩ := (hrepr.exists_artifacts_iff 2).mpr hfit
  obtain ⟨hheader, hsource⟩ := differOnlyInStamp_artifacts hfirst hother
  have hkeywords := Compiled.keywords?_of_boundaryInside hrepr.boundaryInside
  -- the table is compiled twice, with the same result, and rendered under two stamps
  unfold examine
  refine (yields_compiling hcompile).bind ?_
  rw [haudit]
  refine (Yields.ofStopped _ ()).bind ((Yields.orHalt hfirst).bind ?_)
  refine (yields_compiling hcompile).bind ((Yields.orHalt hfirst).bind ?_)
  rw [if_neg (not_not_intro rfl)]
  refine (Yields.orHalt hother).bind ?_
  rw [if_neg (not_or.mpr ⟨not_not_intro hheader, not_not_intro hsource⟩)]
  exact (Yields.orHalt hkeywords).bind (.log _)

theorem ensures_randomTable {options : Settings.Fuzzing} (h : options.length ≤ 65536) :
    Random.Ensures (randomTable options) fun drawn =>
      drawn.2.2.Acceptable ∧ ∀ d ∈ drawn.2.2.definitions, d.NameFits := by
  have hlawful := Random.Source.lawful_ofWords Random.KeyStream.words
  have hbound : options.length + 1 ≤ UInt32.size := Nat.le_trans (Nat.succ_le_succ h) (by decide)
  refine (Random.ensures_below hlawful (Nat.succ_pos _) hbound).bind fun n hn => .then fun aliases => ?_
  have hn : n ≤ 65536 := by omega
  exact (Random.ensures_table hlawful hn aliases).bind fun t ht =>
    .pure ⟨ht.acceptable hn, ht.namesFit hn⟩

theorem yields_examineAll {options : Settings.Fuzzing} (h : options.length ≤ 65536) (left i : Nat)
    (stream : Random.KeyStream) : Yields (examineAll options i stream left) () := by
  induction left generalizing i stream with
  | zero => exact .pure ()
  | succ left ih =>
    obtain ⟨hacceptable, hfit⟩ := ensures_randomTable h stream
    exact (yields_examine options i _ _ hacceptable hfit).bind (ih _ _)

theorem yields_fuzz {i : Invocation} {options : Settings.Fuzzing}
    (hoptions : Settings.Fuzzing.ofVariables i.settings = .ok options)
    (h : options.length ≤ 65536) : Yields (fuzz i) 0 := by
  rw [fuzz, hoptions]
  refine (Yields.openLog _).bind ((Yields.ofExcept _ options).bind ?_)
  refine (Yields.complain _).bind ((yields_examineAll h _ _ _).bind ?_)
  exact (Yields.complain _).bind (.pure 0)

/-- Whatever is drawn, a table within capacity has the size that was asked for, compiles, passes the
audit, and is rendered under any two stamps to artifacts that differ in the line of the stamp at
most. So the command does not fail if it is to draw tables within capacity only, whatever the
seed. -/
theorem fuzz_survives :
    (∀ (σ : Type) (source : Random.Source σ), source.Lawful → ∀ (s : σ) (n aliases : Nat),
      n ≤ 65536 → ∃ t c, t = (Random.table source n aliases s).1 ∧
        t.definitions.length = n ∧ t.aliases.length = (if n = 0 then 0 else aliases) ∧
        t.compile = .ok c ∧ c.audit t = .ok () ∧
        ∀ stamp stamp', ∃ artifacts artifacts',
          Artifacts.ofCompiled? c stamp = some artifacts ∧
          Artifacts.ofCompiled? c stamp' = some artifacts' ∧
          (stamp = stamp' → artifacts = artifacts') ∧
          differOnlyInStamp artifacts.header artifacts'.header = true ∧
          artifacts.source = artifacts'.source) ∧
    ∀ (i : Invocation) (options : Settings.Fuzzing),
      Settings.Fuzzing.ofVariables i.settings = .ok options → options.length ≤ 65536 →
        ∀ disk, ((fuzz i).execute disk).exit = 0 := by
  refine ⟨fun σ source hsource s n aliases hn => ?_, fun i options hoptions h disk => ?_⟩
  · have ht := Random.ensures_table hsource hn aliases s
    generalize (Random.table source n aliases s).1 = t at ht ⊢
    have hcompile : t.compile = .ok (Compiled.ofTable t) :=
      (Table.compile_eq_ok_iff _ _).mpr ⟨ht.acceptable hn, rfl⟩
    obtain ⟨hrepr, haudit⟩ := Table.compile_represents hcompile
    refine ⟨t, _, rfl, ht.length_definitions, ht.length_aliases, hcompile, haudit,
      fun stamp stamp' => ?_⟩
    -- drawn names are short, so that no header halts
    obtain ⟨a, ha⟩ := (hrepr.exists_artifacts_iff stamp).mpr (ht.namesFit hn)
    obtain ⟨a', ha'⟩ := (hrepr.exists_artifacts_iff stamp').mpr (ht.namesFit hn)
    have hsame : stamp = stamp' → a = a' := by
      rintro rfl
      exact Option.some.inj (ha.symm.trans ha')
    exact ⟨a, a', ha, ha', hsame, differOnlyInStamp_artifacts ha ha'⟩
  · exact (yields_fuzz hoptions h).exit_execute disk

/-- A table at capacity, and the command without any variables. -/
theorem fuzz_survives_seed42 :
    (∃ t c, t = (Random.table (.ofWords Random.KeyStream.words) 65536 8 (.ofSeed 42)).1 ∧
      t.definitions.length = 65536 ∧ t.aliases.length = 8 ∧ t.compile = .ok c ∧
      c.audit t = .ok ()) ∧
    Settings.Fuzzing.ofVariables [] = .ok ⟨200, 42, 400, 8⟩ ∧
    ∀ disk, ((fuzz ⟨[], [], 0, 0⟩).execute disk).exit = 0 := by
  have hoptions : Settings.Fuzzing.ofVariables [] = .ok ⟨200, 42, 400, 8⟩ := rfl
  obtain ⟨t, c, ht, hdefinitions, haliases, hcompile, haudit, -⟩ := fuzz_survives.1 _
    (.ofWords Random.KeyStream.words) (Random.Source.lawful_ofWords _) (.ofSeed 42) 65536 8
    (Nat.le_refl _)
  exact ⟨⟨t, c, ht, hdefinitions, haliases, hcompile, haudit⟩, hoptions,
    fuzz_survives.2 ⟨[], [], 0, 0⟩ _ hoptions (by decide)⟩

end CommandLine

end Lexicon
