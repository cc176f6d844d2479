import Lexicon.Proofs.FileTree.Replacement
import Lexicon.Proofs.Generation.Preparation

namespace Lexicon

open Text (utf8)

/-- The paths that a run writes to, in the order in which it replaces them. -/
def Settings.Generation.destinations (options : Settings.Generation) : List String :=
  options.header :: options.source :: options.listing.toList

/-- Where no paths are given, the destinations are separate, wherever a run starts. -/
theorem Settings.Generation.separate_default (here : Location) :
    Path.Separate here (destinations {}) := by
  have hheader : Path.Descends (Settings.Generation.header {}) := by decide
  have hsource : Path.Descends (Settings.Generation.source {}) := by decide
  refine ⟨?_, ?_⟩
  · exact List.forall_mem_cons.mpr ⟨hheader, List.forall_mem_singleton.mpr hsource⟩
  · apply List.pairwise_pair.mpr
    rw [Path.apart_iff hheader hsource (by decide)]
    decide

/-- The numbers of a summary are those of the table. -/
structure Summary.Describes (t : Table) (s : Summary) : Prop where
  tokens : s.tokens = t.definitions.length
  keywords : s.keywords = t.keywordCount
  split : s.tokens = s.firstKeyword.position + s.keywords
  aliases : s.aliases = t.aliases.length

namespace Generation

namespace Prepared

variable {here : Location} {options : Settings.Generation}

def outputs (p : Prepared) (options : Settings.Generation) : List Output :=
  ⟨options.header, utf8 p.artifacts.header⟩ :: ⟨options.source, utf8 p.artifacts.source⟩ ::
    options.listing.toList.map fun path => ⟨path, utf8 p.listing⟩

end Prepared

variable {t : Table} {options : Settings.Generation} {now : UInt64} {p : Prepared} {d d' : Disk}
variable {result : Except (Stop GenerationError) Summary}

theorem run_of_error {e : Stop GenerationError} (h : prepare t (stampOf options now) = .error e)
    (d : Disk) : run t options now d = (.error e, d) := by
  -- nothing is prepared, and so nothing is written
  rw [run, h]
  rfl

theorem lift_bind_apply {α β : Type} (m : StateM Disk β) (k : β → Generating α) (d : Disk) :
    (liftM m >>= k) d = k (m d).1 (m d).2 := rfl

theorem run_of_ok (h : prepare t (stampOf options now) = .ok p) (d : Disk) :
    run t options now d = match (p.write options d : Except WriteError Unit × Disk) with
      | (.error e, d') => (.error (.failed (.write e)), d')
      | (.ok (), d') => (.ok p.summary, d') := by
  rw [run, h]
  dsimp only
  rw [lift_bind_apply, ExceptT.run]
  rcases (p.write options d : Except WriteError Unit × Disk) with ⟨e | a, d'⟩
  · rfl
  · rfl

def Prepared.mixed : Prepared where
  compiled := Compiled.mixed
  stamp := 7
  artifacts := (Artifacts.ofCompiled? Compiled.mixed 7).getD ⟨"", ""⟩
  listing := (Artifact.Listing.text? Compiled.mixed).getD ""
  keywords := Compiled.mixed.keywords?.getD []

end Generation

end Lexicon
