import Lexicon.Proofs.Artifact.Agreement

namespace Lexicon

open Artifact (FillsInOrder Header.write Source.write Header.prints_write Header.prints_write_halt)

namespace Compiled

variable (c : Compiled) (stamp : UInt64)

theorem header_fillsInOrder : FillsInOrder (Header.write c stamp) := by
  by_cases h : c.NamesFit
  · exact (Header.prints_write h stamp).fillsInOrder
  · exact (Header.prints_write_halt h stamp).fillsInOrder

theorem source_fillsInOrder : FillsInOrder (Source.write c) := by
  by_cases h : c.BoundaryInside
  · exact (Artifact.Source.prints_write h).fillsInOrder
  · obtain ⟨text, hprints⟩ := Artifact.Source.prints_write_halt h
    exact hprints.fillsInOrder

end Compiled

/-- Both artifacts of a table that compiles reach a sink from their beginning on, as far as it has
room, and the refusal is reported exactly if something is missing. What they are compared with is
what they write to memory, where nothing is refused: the whole texts, unless a name is too long for
the header, which then halts. -/
theorem Artifacts.fill_in_order {t : Table} {c : Compiled} (h : t.compile = .ok c)
    (stamp : UInt64) :
    FillsInOrder (Header.write c stamp) ∧ FillsInOrder (Source.write c) ∧
      (Source.write c .memory).1 = .ok () ∧
      ((∀ d ∈ t.definitions, d.NameFits) → (Header.write c stamp .memory).1 = .ok ()) ∧
      (¬(∀ d ∈ t.definitions, d.NameFits) →
        (Header.write c stamp .memory).1 = .error .halted) ∧
      ∀ artifacts, ofCompiled? c stamp = some artifacts →
        (Header.write c stamp .memory).2.bytes = Text.utf8 artifacts.header ∧
        (Source.write c .memory).2.bytes = Text.utf8 artifacts.source := by
  have hrepr := (Table.compile_represents h).1
  have hsource := Artifact.Source.prints_write hrepr.boundaryInside
  rw [← hrepr.namesFit_iff]
  refine ⟨c.header_fillsInOrder stamp, c.source_fillsInOrder,
    congrArg Prod.fst hsource.memory, fun hfit => ?_, fun hwide => ?_, fun artifacts hsome => ?_⟩
  · exact congrArg Prod.fst (Header.prints_write hfit stamp).memory
  · exact congrArg Prod.fst (Header.prints_write_halt hwide stamp).memory
  · obtain ⟨⟨hfit, -⟩, rfl⟩ := ofCompiled?_eq_some_iff.mp hsome
    exact ⟨(Header.prints_write hfit stamp).bytes_memory, hsource.bytes_memory⟩

/-- The sinks of four definitions and an alias. -/
theorem Artifacts.mixed_fill_in_order : Table.mixed.compile = .ok Compiled.mixed ∧
    FillsInOrder (Header.write Compiled.mixed 7) ∧ FillsInOrder (Source.write Compiled.mixed) ∧
    ∃ artifacts, ofCompiled? Compiled.mixed 7 = some artifacts ∧
      (Header.write Compiled.mixed 7 .memory).2.bytes = Text.utf8 artifacts.header ∧
      (Source.write Compiled.mixed .memory).2.bytes = Text.utf8 artifacts.source := by
  obtain ⟨hheader, hsource, -, -, -, hbytes⟩ := fill_in_order Table.compile_mixed 7
  obtain ⟨artifacts, hsome⟩ :=
    ((Table.compile_represents Table.compile_mixed).1.exists_artifacts_iff 7).mpr (by decide)
  exact ⟨Table.compile_mixed, hheader, hsource, artifacts, hsome, hbytes artifacts hsome⟩

end Lexicon
