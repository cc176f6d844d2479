namespace Lexicon

/-- What ends a computation before its end: an error, which is reported to the caller, or a halt, after which there is
no caller any more. -/
inductive Stop (ε : Type) where
  | failed (e : ε)
  | halted
  deriving DecidableEq, Repr

def orHalt {ε α : Type} {m : Type → Type} [Monad m] [MonadExcept (Stop ε) m] : Option α → m α
  | some a => return a
  | none => throw .halted

theorem orHalt_eq_ok_iff {ε α : Type} {o : Option α} {a : α} :
    (orHalt o : Except (Stop ε) α) = .ok a ↔ o = some a := by
  cases o with
  | none => exact iff_of_false nofun nofun
  | some b => exact ⟨fun h => congrArg some (Except.ok.inj h), fun h => congrArg Except.ok (Option.some.inj h)⟩

end Lexicon
