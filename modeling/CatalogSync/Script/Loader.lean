import CatalogSync.Load.Basic

/-!
# Scripted loaders

A loader that answers from a script, to try out pipelines without an index.
-/

namespace CatalogSync

/-- What becomes of one write. -/
inductive WriteResult where
  | everything
  | accepted (count : Nat)
  | failed (error : LoadError)

/-- The answers to come, each used up by one call; later calls succeed. -/
structure ScriptedLoader where
  index : String
  batchSize : Nat
  results : List WriteResult
  preChecks : List (Option LoadError)

namespace ScriptedLoader

def preCheck : Call LoadError ScriptedLoader Unit := fun s =>
  let rest := { s with preChecks := s.preChecks.tail }
  match s.preChecks.head?.join with
  | some e => (.error e, rest)
  | none => (.ok (), rest)

def write (batch : Batch) : Call LoadError ScriptedLoader LoadResult := fun s =>
  let rest := { s with results := s.results.tail }
  match s.results.head?.getD .everything with
  | .everything => (.ok ⟨batch.length, batch.length⟩, rest)
  | .accepted count => (.ok ⟨batch.length, count⟩, rest)
  | .failed e => (.error e, rest)

/-- The loader as it is at the start. -/
def loader (s : ScriptedLoader) : Loader ScriptedLoader := ⟨s.index, s.batchSize, preCheck, write⟩

end ScriptedLoader

end CatalogSync
