import CatalogSync.Call
import CatalogSync.Database.Address
import CatalogSync.Database.Statement
import CatalogSync.Error

/-!
# Databases

A database as its client sees it: it can be connected to, it can be asked, and the client may notice
that the connection is gone before it asks. A statement is refused by the database or it is lost
with the connection.
-/

namespace CatalogSync

/-- Why there is no answer. -/
inductive Refusal where
  /-- No connection can be made. -/
  | unreachable
  /-- The connection is gone. -/
  | lost
  /-- The database says no; the code says why. -/
  | sqlError (code : String)
  deriving DecidableEq, Repr

namespace Refusal

/-- The codes that tell of a broken connection or of a server that is shutting down. -/
def isConnectionCode (code : String) : Bool := code.startsWith "08" || code.startsWith "57P0"

/-- What a refusal is to the source. -/
def toSourceError : Refusal → SourceError
  | unreachable => .connection "error connecting to server"
  | lost => .connection "connection closed"
  | sqlError code => if isConnectionCode code then .connection "db error" else .query "db error"

end Refusal

/-- What a bad address is to the source. -/
def AddressFault.toSourceError : AddressFault → SourceError
  | malformed => .query "invalid connection string"
  | incomplete => .query "invalid configuration"

/-- A database that lives in a world `ω`. A client has one connection at a time. -/
structure Database (ω : Type) where
  /-- Open a connection in place of the one before. -/
  connect : Endpoint → Call Refusal ω Unit
  /-- Whether the client has noticed that its connection is gone. -/
  isClosed : ω → Bool
  /-- Give up the connection. -/
  disconnect : ω → ω
  /-- Send a statement over the connection. -/
  run : (s : Statement) → Call Refusal ω s.Answer

namespace Database

variable {σ ω : Type}

/-- A database that is never there. -/
def unreachable : Database ω where
  connect _ := Call.fail .unreachable
  isClosed _ := true
  disconnect w := w
  run _ := Call.fail .lost

/-- A database that is a part of the world. -/
def within (d : Database σ) (get : ω → σ) (set : σ → ω → ω) : Database ω where
  connect e := (d.connect e).within get set
  isClosed w := d.isClosed (get w)
  disconnect w := set (d.disconnect (get w)) w
  run s := (d.run s).within get set

/-- Connect to the first endpoint that lets itself be connected to. If none does, it is the last
refusal that counts. -/
def connectAny (d : Database ω) (refusal : Refusal) : List Endpoint → Call Refusal ω Unit
  | [] => Call.fail refusal
  | e :: rest => fun w =>
    match d.connect e w with
    | (.error refusal, w) => connectAny d refusal rest w
    | ended => ended

end Database

end CatalogSync
