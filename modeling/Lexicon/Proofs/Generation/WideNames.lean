import Lexicon.Proofs.Conformance.Run
import Lexicon.Proofs.Generation.Run
import Lexicon.Proofs.Table.AuditSteps

/-! What can stop a run. Compiled tables that were edited by hand may have no keywords and no source
artifact, exactly if their boundary lies past the end, and the audit says so. Tables that compile
have all of it. What is left is a name that the header cannot fill up to its column: it stops the
header and with it the whole run, before anything is written. -/
namespace Lexicon

open Artifact

namespace Generation

variable {t : Table} {c : Compiled}

/-- Once everything is prepared, only calls can fail. -/
theorem fst_run_ne_halted (hc : t.compile = .ok c) (hfit : ∀ d ∈ t.definitions, d.NameFits)
    (options : Settings.Generation) (now : UInt64) (d : Disk) :
    (run t options now d).1 ≠ .error .halted := by
  obtain ⟨artifacts, listing, keywords, hprepare⟩ :=
    exists_prepare_eq_ok hc hfit (stampOf options now)
  rw [run_of_ok hprepare]
  split
  · exact nofun
  · exact nofun

end Generation

/-- What there is of a compiled table, however its fields were edited. -/
structure Compiled.Yields (c : Compiled) : Prop where
  verdict : ∀ t, c.audit t ≠ .error .halted
  violation : c.size < c.firstKeyword.position → ∀ t, ∃ v, c.audit t = .error (.failed v)
  keywords : c.keywords? = none ↔ c.size < c.firstKeyword.position
  source : Source.text? c = none ↔ c.size < c.firstKeyword.position
  /-- The gap behind a name is a difference of lengths. -/
  rows : ∀ body ∈ Source.nameBodies c, ∀ id, ∃ row,
    Source.nameRow? (Source.longest (Source.nameBodies c)) body id = some row
  header : c.NamesFit → ∀ stamp, Header.text? c stamp = some (Header.wholeText c stamp)
  noHeader : ¬c.NamesFit → ∀ stamp, Header.text? c stamp = none
  /-- A sink may also be full before the first name comes. -/
  sink : ∀ stamp room, c.NamesFit ∨ room < (Text.utf8 (Header.frontText stamp)).length →
    (Header.write c stamp (.limited room)).2.bytes =
      (Text.utf8 (Header.wholeText c stamp)).take room ∧
    ((Header.write c stamp (.limited room)).1 = .error (.failed .full) ↔
      room < (Text.utf8 (Header.wholeText c stamp)).length)
  stoppedSink : ∀ stamp s, (Header.write c stamp s).1 = .error .halted ↔
    ¬c.NamesFit ∧ s.Takes (Header.frontText stamp)

/-- What there is of a table that compiles. -/
structure Compiled.YieldsAll (t : Table) (c : Compiled) : Prop where
  keywords : ∃ keywords, c.keywords? = some keywords
  source : ∃ source, Source.text? c = some source
  sourceSink : ∀ s, (Source.write c s).1 ≠ .error .halted
  listing : ∃ listing, Listing.text? c = some listing
  header : (∀ d ∈ t.definitions, d.NameFits) → ∀ stamp,
    ∃ header, Header.text? c stamp = some header
  run : (∀ d ∈ t.definitions, d.NameFits) → ∀ options now d,
    (Generation.run t options now d).1 ≠ .error .halted
  stoppedRun : ¬(∀ d ∈ t.definitions, d.NameFits) → ∀ options now d,
    Generation.run t options now d = (.error .halted, d)

theorem Compiled.yields (c : Compiled) : c.Yields where
  verdict t := c.audit_concludes t
  violation := Compiled.exists_audit_eq_error
  keywords := c.keywords?_eq_none_iff
  source := Source.text?_eq_none_iff c
  rows _ hbody id := ⟨_, Source.nameRow?_eq_some hbody id⟩
  header := Header.text?_of_namesFit
  noHeader := Header.text?_of_not_namesFit
  sink stamp _ := Header.write_limited c stamp
  stoppedSink := Header.fst_write_eq_halted_iff c

theorem Compiled.yieldsAll {t : Table} {c : Compiled} (h : t.compile = .ok c) : c.YieldsAll t := by
  have hrepr := Table.represents_of_compile h
  have hinside := hrepr.boundaryInside
  have hsource := Source.prints_write hinside
  exact {
    keywords := ⟨_, Compiled.keywords?_of_boundaryInside hinside⟩
    source := ⟨_, hsource.text?⟩
    sourceSink := fun s hhalted => nomatch ((hsource.fst_eq_halted_iff s).mp hhalted).1
    listing := Listing.text?_eq_some hinside
    header := fun hfit stamp => ⟨_, Header.text?_of_namesFit (hrepr.namesFit_iff.mpr hfit) stamp⟩
    run := Generation.fst_run_ne_halted h
    stoppedRun := fun hwide options now =>
      Generation.run_of_error (Generation.prepare_eq_halted h hwide _) }

/-- An audit always comes to a verdict, keywords and source artifact are missing exactly if the
boundary lies past the end, and reports can always be shown. Of a table that compiles, only a name
too long for the header is in the way of a run. -/
theorem Generation.only_wide_names_stop (t : Table) (c : Compiled) (r : Conformance.Report) :
    c.Yields ∧ (t.compile = .ok c → c.YieldsAll t) ∧
      ∀ color, ∃ text, r.render? color = some text :=
  ⟨c.yields, Compiled.yieldsAll, r.exists_render⟩

/-- The four entries with their boundary behind them. -/
def Compiled.unbounded : Compiled := { Compiled.mixed with firstKeyword := ⟨5⟩ }

/-- A boundary behind the entries is reported and leaves the header as it is; as compiled, the four
definitions are generated. -/
theorem Generation.mixed_not_stopped :
    (∃ v, Compiled.unbounded.audit Table.mixed = .error (.failed v)) ∧
    Compiled.unbounded.keywords? = none ∧ Source.text? Compiled.unbounded = none ∧
    Header.text? Compiled.unbounded 7 = some (Header.wholeText Compiled.unbounded 7) ∧
    Table.mixed.compile = .ok Compiled.mixed ∧
    ∀ options now d, (run Table.mixed options now d).1 ≠ .error .halted := by
  have hpast : Compiled.unbounded.size < Compiled.unbounded.firstKeyword.position := by decide
  have hentries : Compiled.unbounded.NamesFit := by decide
  have hdefinitions : ∀ d ∈ Table.mixed.definitions, d.NameFits := by decide
  have hyields := (only_wide_names_stop Table.mixed Compiled.unbounded ⟨[]⟩).1
  have hall := (only_wide_names_stop Table.mixed Compiled.mixed ⟨[]⟩).2.1 Table.compile_mixed
  exact ⟨hyields.violation hpast _, hyields.keywords.mpr hpast, hyields.source.mpr hpast,
    hyields.header hentries 7, Table.compile_mixed, hall.run hdefinitions⟩

/-! ### A long name -/

def Table.lengthy (n : Nat) : Table where
  definitions := [⟨String.ofList (List.replicate n 'a'), .plain, .idOnly, none⟩]
  aliases := []

theorem wellFormedName_replicate {n : Nat} (h : n ≠ 0) :
    WellFormedName (String.ofList (List.replicate n 'a')) := by
  refine ⟨fun hempty => ?_, fun c hletter => ?_⟩
  · have hlength : (String.ofList (List.replicate n 'a')).length = n := by
      rw [String.length_ofList, List.length_replicate]
    rw [hempty] at hlength
    exact h hlength.symm
  · rw [String.toList_ofList] at hletter
    obtain rfl := List.eq_of_mem_replicate hletter
    decide

/-- The length of a name is no obstacle to compilation. -/
theorem Table.lengthy_acceptable {n : Nat} (h : n ≠ 0) : (lengthy n).Acceptable where
  withinCapacity := by simp [lengthy]
  wellFormed := List.forall_mem_singleton.mpr (wellFormedName_replicate h)
  distinct := List.pairwise_singleton _ _
  resolved := nofun

theorem Table.lengthy_wide {n : Nat} (h : 65529 < n) :
    ¬∀ d ∈ (lengthy n).definitions, d.NameFits := by
  have hlength := (wellFormedName_replicate (Nat.ne_zero_of_lt h)).length_utf8
  rw [String.length_ofList, List.length_replicate] at hlength
  intro hfit
  have hname : (Text.utf8 (String.ofList (List.replicate n 'a'))).length ≤ 65529 :=
    hfit _ List.mem_cons_self
  omega

/-- A name of 65530 letters compiles, but its header halts and so does a run, which has written
nothing by then. -/
theorem Table.lengthy_stopped : ∃ c, (lengthy 65530).compile = .ok c ∧
    (∀ stamp, Header.text? c stamp = none) ∧
    ∀ options now d, Generation.run (lengthy 65530) options now d = (.error .halted, d) := by
  have hacceptable : (lengthy 65530).Acceptable := lengthy_acceptable (by decide)
  have hcompile := (compile_eq_ok_iff _ _).mpr ⟨hacceptable, rfl⟩
  have hwide := lengthy_wide (n := 65530) (by decide)
  have hentries := mt (represents_of_compile hcompile).namesFit_iff.mp hwide
  refine ⟨_, hcompile, Header.text?_of_not_namesFit hentries, fun options now d => ?_⟩
  exact Generation.run_of_error (Generation.prepare_eq_halted hcompile hwide _) d

end Lexicon
