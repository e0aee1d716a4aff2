import CatalogSync.Cursor.Basic
import CatalogSync.NameMap

/-!
# Cursor maps

The cursors of all streams by stream name. A stream may be known without a cursor; it then stands
at the initial cursor, as does a stream that is not known.
-/

namespace CatalogSync

/-- What is remembered of every stream. -/
abbrev CursorMap := NameMap (Option Cursor)

namespace CursorMap

/-- Where a stream stands. -/
def position (m : CursorMap) (stream : String) : Cursor := ((m.get? stream).join).getD .initial

def entryToJson (entry : Option Cursor) : Json :=
  match entry with
  | some c => c.toJson
  | none => .null

/-- The map as an object of cursors and nulls. -/
def toJson (m : CursorMap) : Json := .obj (m.entries.map fun e => (e.1, entryToJson e.2))

/-- Reads every member; a name that is repeated keeps its last value. -/
def decode : Decoder CursorMap
  | .obj members => do
    let entries ← members.mapM fun (name, j) => do
      return (name, ← Decoder.optional Cursor.decode j)
    .ok (NameMap.ofList entries)
  | j => .error (.wrongType j "a map")

end CursorMap

end CatalogSync
