import CatalogSync.Http.Basic
import CatalogSync.Json.Decode
import CatalogSync.Json.Parser
import CatalogSync.NameMap

/-!
# Bulk replies

What an index answers to a bulk request: for every action a status. An action was accepted when
its status stands for success. Whatever else a reply says is left aside.
-/

namespace CatalogSync

/-- What became of one action. -/
structure BulkItem where
  id : Option String
  status : Nat
  error : Option Json

def BulkItem.decode : Decoder BulkItem :=
  Fields.decodeOnce "BulkItem" <| BulkItem.mk
    <$> Fields.defaulted "_id" (Decoder.optional Decoder.string) none
    <*> Fields.required "status" Decoder.nat16
    <*> Fields.defaulted "error" (Decoder.optional Decoder.json) none

/-- Whether the action was carried out. -/
def BulkItem.isAccepted (i : BulkItem) : Bool := Http.isSuccess i.status

/-- The answer to a bulk request. Each item names its action, as a rule one. -/
structure BulkReply where
  errors : Bool
  items : List (NameMap BulkItem)

namespace BulkReply

/-- Actions by name; of two with one name the last counts. -/
def decodeItem : Decoder (NameMap BulkItem)
  | .obj members =>
    members.foldlM (fun m (name, j) => do .ok (m.insert name (← BulkItem.decode j))) .empty
  | j => .error (.wrongType j "a map")

def decode : Decoder BulkReply :=
  Fields.decodeOnce "BulkReply" <| BulkReply.mk
    <$> Fields.defaulted "errors" Decoder.bool false
    <*> Fields.defaulted "items" (Decoder.list decodeItem) []

/-- The reply that a text spells. -/
def parse? (text : String) : Option BulkReply := do
  let j ← Json.read? text.toList
  match decode j with
  | .ok reply => some reply
  | .error _ => none

/-- How many actions were accepted. -/
def accepted (r : BulkReply) : Nat :=
  ((r.items.flatMap NameMap.values).filter BulkItem.isAccepted).length

end BulkReply

end CatalogSync
