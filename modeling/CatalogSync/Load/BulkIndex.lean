import CatalogSync.Load.Basic
import CatalogSync.Load.BulkBody
import CatalogSync.Load.BulkReply
import CatalogSync.Retry.Run

/-!
# Indexes written in bulk

A loader that sends every batch as one bulk request. An index that is overloaded or not there for
the moment is asked again with the same body; only the last answer counts, so what an earlier
attempt may have written is written once more, under the same ids.
-/

namespace CatalogSync

/-- An index behind a web server. -/
structure BulkIndex (φ : Type) where
  /-- The address of the server, without separators at its end. -/
  base : String
  index : String
  batchSize : Nat
  policy : Policy φ

namespace BulkIndex

variable {φ ω : Type}

/-- An address without the separators at its end. -/
def trimmedBase (url : String) : String :=
  String.ofList (url.toList.reverse.dropWhile (· = '/')).reverse

def ofUrl (url index : String) (batchSize : Nat) (policy : Policy φ) : BulkIndex φ :=
  ⟨trimmedBase url, index, batchSize, policy⟩

variable (i : BulkIndex φ) (client : Http.Client ω)

/-- Send a request; one that is not answered was a lost connection. -/
def send (r : Http.Request) : Call LoadError ω Http.Response :=
  (client.send r).mapError .connection

/-- What an answer to a bulk request of so many documents comes to. -/
def judge (sent : Nat) (r : Http.Response) : Except LoadError LoadResult :=
  if r.isSuccess then
    match BulkReply.parse? r.body with
    | some reply => .ok ⟨sent, reply.accepted⟩
    | none => .error (.response "error decoding response body")
  else .error (.http r.status r.body)

/-- The request that carries a body. -/
def bulkRequest (body : String) : Http.Request :=
  .post (i.base ++ "/_bulk") "application/x-ndjson" body

/-- Send a body once. -/
def post (body : String) (sent : Nat) : Call LoadError ω LoadResult := do
  let response ← send client (i.bulkRequest body)
  Call.ofExcept (judge sent response)

/-- Write a batch. Nothing is sent for an empty one. -/
def write [Growth φ] (allowance : Nat) (batch : Batch) : Call LoadError ω LoadResult :=
  match batch with
  | [] => pure ⟨0, 0⟩
  | batch =>
    i.policy.retry "elasticsearch bulk" allowance
      (i.post client (BulkBody.text i.index batch) batch.length)

/-- Whether the server answers and has the index. -/
def preCheck : Call LoadError ω Unit := do
  let root ← send client (.get (i.base ++ "/"))
  if !root.isSuccess then Call.fail (.http root.status root.body)
  let head ← send client (.head (i.base ++ "/" ++ i.index))
  if head.isSuccess then return ()
  else if head.status = 404 then Call.fail (.missingIndex i.index)
  else Call.fail (.http head.status "")

def loader [Growth φ] (allowance : Nat) : Loader ω :=
  ⟨i.index, i.batchSize, i.preCheck client, i.write client allowance⟩

end BulkIndex

end CatalogSync
