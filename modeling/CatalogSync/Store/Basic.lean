import CatalogSync.Cursor.CursorMap
import CatalogSync.Error

/-!
# Cursor stores

A store is the durable home of the cursor map. It is read as a whole when a run starts and
replaced as a whole by every commit.
-/

namespace CatalogSync

/-- A store whose state is `τ`. -/
structure Store (τ : Type) where
  /-- The map last committed. Reading changes nothing. -/
  load : τ → Except StateError CursorMap
  /-- Replace the map. -/
  commit : CursorMap → τ → Except StateError Unit × τ

/-- A store that is a part of the world. -/
def Store.within {τ ω : Type} (s : Store τ) (get : ω → τ) (set : τ → ω → ω) : Store ω where
  load w := s.load (get w)
  commit m w :=
    let (result, t) := s.commit m (get w)
    (result, set t w)

/-- A store in memory whose commits can be made to fail. -/
structure MemoryStore where
  cursors : CursorMap
  /-- Why nothing can be loaded, if so. -/
  loadFault : Option StateError
  /-- Whether each commit to come fails; later ones succeed. -/
  commitFaults : List (Option StateError)
  /-- How many commits succeeded. -/
  commits : Nat

namespace MemoryStore

def ofCursors (cursors : CursorMap) : MemoryStore := ⟨cursors, none, [], 0⟩

/-- A failed commit stores nothing. -/
def commit (m : CursorMap) (s : MemoryStore) : Except StateError Unit × MemoryStore :=
  let rest := { s with commitFaults := s.commitFaults.tail }
  match s.commitFaults.head?.join with
  | some e => (.error e, rest)
  | none => (.ok (), { rest with cursors := m, commits := s.commits + 1 })

def load (s : MemoryStore) : Except StateError CursorMap :=
  match s.loadFault with
  | some e => .error e
  | none => .ok s.cursors

def store : Store MemoryStore := ⟨load, commit⟩

end MemoryStore

end CatalogSync
