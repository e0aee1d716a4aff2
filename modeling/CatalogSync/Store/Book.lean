import CatalogSync.Store.Basic

/-!
# The cursor book

The cursors of a run, read from the store once when the run starts. An advance commits the whole
map before the book changes, so a failed commit leaves both where they were.
-/

namespace CatalogSync

/-- The cursors in memory, and the world that the store behind them lives in. -/
structure Book (τ : Type) where
  cursors : CursorMap
  world : τ

namespace Book

variable {τ : Type} (store : Store τ)

/-- Start a run from what the store holds. -/
def open? (world : τ) : Except StateError (Book τ) := do
  .ok ⟨← store.load world, world⟩

/-- Make streams known that are not. Only the book changes; the store learns of them with the next
commit. -/
def register (b : Book τ) (streams : List String) : Book τ :=
  { b with
    cursors := streams.foldl (fun m s => if m.contains s then m else m.insert s none) b.cursors }

/-- Where a stream stands. -/
def position (b : Book τ) (stream : String) : Cursor := CursorMap.position b.cursors stream

/-- Move a stream forward to a cursor and commit. The answer is `false` when the stream is known
and already stands there; nothing is committed then. -/
def advance (b : Book τ) (stream : String) (cursor : Cursor) : Except StateError Bool × Book τ :=
  let current := b.position stream
  if cursor < current then (.error (.regression stream current cursor), b)
  else if cursor = current ∧ b.cursors.contains stream then (.ok false, b)
  else
    let next := b.cursors.insert stream (some cursor)
    match store.commit next b.world with
    | (.ok (), world) => (.ok true, ⟨next, world⟩)
    | (.error e, world) => (.error e, { b with world })

end Book

end CatalogSync
