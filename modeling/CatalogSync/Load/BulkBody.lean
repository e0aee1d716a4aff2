import CatalogSync.Json.Parser
import CatalogSync.Json.Printer
import CatalogSync.Load.Batch

/-!
# Bulk bodies

A batch as the body of one request: for each entry a line that names the index and the id, and a
line with the document. JSON text without blanks holds no newline, so the lines of a body are those
of its entries, and `read?` finds them again.
-/

namespace CatalogSync

/-- What the line before a document says. -/
structure BulkAction where
  index : String
  id : String
  deriving DecidableEq, Repr

namespace BulkAction

def toJson (a : BulkAction) : Json :=
  .obj [("index", .obj [("_index", .str a.index), ("_id", .str a.id)])]

/-- The action of a line. -/
def read? (line : List Char) : Option BulkAction := do
  let action ← (← Json.read? line).member? "index"
  match action.member? "_index", action.member? "_id" with
  | some (.str index), some (.str id) => some ⟨index, id⟩
  | _, _ => none

end BulkAction

namespace BulkBody

/-- The two lines of an entry. -/
def writeEntry (index : String) (e : Entry) : List Char :=
  (BulkAction.toJson ⟨index, e.id⟩).write ++ '\n' :: (e.source.write ++ ['\n'])

/-- The body of a batch. -/
def write (index : String) (batch : Batch) : List Char := batch.flatMap (writeEntry index)

def text (index : String) (batch : Batch) : String := String.ofList (write index batch)

/-- The lines of a body, each of which is ended by a newline. -/
def lines? : List Char → Option (List (List Char))
  | [] => some []
  | '\n' :: rest => do some ([] :: (← lines? rest))
  | c :: rest =>
    match lines? rest with
    | some (line :: more) => some ((c :: line) :: more)
    | _ => none

/-- Lines in pairs: what is to be done, and the text of the document. -/
def pair? : List (List Char) → Option (List (BulkAction × List Char))
  | [] => some []
  | action :: source :: rest => do some ((← BulkAction.read? action, source) :: (← pair? rest))
  | [_] => none

/-- What a body asks for. -/
def read? (body : List Char) : Option (List (BulkAction × List Char)) := (lines? body).bind pair?

end BulkBody

end CatalogSync
