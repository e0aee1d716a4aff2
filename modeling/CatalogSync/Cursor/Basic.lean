import CatalogSync.Json.Decode
import CatalogSync.Timestamp.Printer
import CatalogSync.Timestamp.Reader

/-!
# Cursors

A cursor marks how far a change stream has been handled: everything up to the row with this
timestamp and id. Cursors are ordered by timestamp and then by id, and no id comes before any id.
-/

namespace CatalogSync

/-- The last handled row of a change stream. -/
structure Cursor where
  timestamp : Timestamp
  /-- `none` stands before every row with the timestamp. -/
  id : Option String
  deriving DecidableEq, Inhabited

/-- No id first, then ids by code points. -/
def compareIds : Option String → Option String → Ordering
  | none, none => .eq
  | none, some _ => .lt
  | some _, none => .gt
  | some a, some b => compare a b

namespace Cursor

instance : Ord Cursor where
  compare a b := (compare a.timestamp b.timestamp).then (compareIds a.id b.id)

instance : LT Cursor := ltOfOrd

instance : LE Cursor := leOfOrd

instance (a b : Cursor) : Decidable (a < b) := inferInstanceAs (Decidable (compare a b = .lt))

/-- The cursor of a stream that was never handled. -/
def initial : Cursor := ⟨Timestamp.first, none⟩

/-- The cursor of a row. -/
def ofRow (timestamp : Timestamp) (id : String) : Cursor := ⟨timestamp, some id⟩

def isInitial (c : Cursor) : Bool := c = initial

/-- Whether the cursor marks exactly this row. -/
def pointsAt (c : Cursor) (timestamp : Timestamp) (id : String) : Bool := c = ofRow timestamp id

/-- The cursor in a message. -/
def display (c : Cursor) : String :=
  match c.id with
  | some id => s!"({c.timestamp.display}, {id})"
  | none => s!"({c.timestamp.display}, -)"

/-- The cursor as data: its timestamp and its id or `null`. -/
def toJson (c : Cursor) : Json :=
  .arr [.str c.timestamp.text, match c.id with | some id => .str id | none => .null]

end Cursor

/-- Reads a timestamp from its text. -/
def Timestamp.decode : Decoder Timestamp
  | .str s =>
    match Timestamp.parse? s with
    | some t => .ok t
    | none => .error .badTimestamp
  | j => .error (.wrongType j "an RFC 3339 formatted date and time string")

/-- Reads a cursor from a pair of a timestamp and an id or `null`. -/
def Cursor.decode : Decoder Cursor
  | .arr items =>
    let pair := "a tuple of size 2"
    match items with
    | [] => .error (.wrongLength 0 pair)
    | t :: rest => do
      let timestamp ← Timestamp.decode t
      match rest with
      | [] => .error (.wrongLength 1 pair)
      | j :: rest =>
        let id ← Decoder.optional Decoder.string j
        if rest = [] then .ok ⟨timestamp, id⟩
        else .error (.wrongLength items.length "fewer elements in array")
  | j => .error (.wrongType j "a tuple of size 2")

end CatalogSync
