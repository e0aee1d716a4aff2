import CatalogSync.Call
import CatalogSync.Load.Batch

/-!
# Bulk loaders

A loader writes batches of documents to one index. A write is verified when the index accepted as
many documents as were sent.
-/

namespace CatalogSync

/-- What became of a batch. -/
structure LoadResult where
  sent : Nat
  accepted : Nat
  deriving DecidableEq, Repr

def LoadResult.IsVerified (r : LoadResult) : Prop := r.sent = r.accepted

instance (r : LoadResult) : Decidable r.IsVerified := inferInstanceAs (Decidable (_ = _))

/-- A loader that lives in a world `ω`. -/
structure Loader (ω : Type) where
  index : String
  /-- How many documents a batch may hold. -/
  batchSize : Nat
  /-- Whether the index is there. -/
  preCheck : Call LoadError ω Unit
  write : Batch → Call LoadError ω LoadResult

/-- What a loader is asked. -/
inductive LoadCall where
  | preCheck (index : String)
  | write (index : String) (batch : Batch)

namespace Loader

variable {σ ω : Type}

/-- A loader that is a part of the world. -/
def within (l : Loader σ) (get : ω → σ) (set : σ → ω → ω) : Loader ω where
  index := l.index
  batchSize := l.batchSize
  preCheck := l.preCheck.within get set
  write batch := (l.write batch).within get set

/-- The loader with every call noted before it is made. -/
def noting (l : Loader ω) (note : LoadCall → ω → ω) : Loader ω where
  index := l.index
  batchSize := l.batchSize
  preCheck w := l.preCheck (note (.preCheck l.index) w)
  write batch w := l.write batch (note (.write l.index batch) w)

end Loader

end CatalogSync
