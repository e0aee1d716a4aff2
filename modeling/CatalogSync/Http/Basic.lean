import CatalogSync.Call

/-!
# Web requests

What a client sends to a web server and what comes back. A request that is not answered ends with
a text that says why.
-/

namespace CatalogSync.Http

inductive Method where
  | get
  | head
  | post
  deriving DecidableEq, Repr

def Method.name : Method → String
  | get => "GET"
  | head => "HEAD"
  | post => "POST"

def Method.ofName? (s : String) : Option Method := [get, head, post].find? (·.name = s)

structure Request where
  method : Method
  url : String
  contentType : Option String
  body : String
  deriving DecidableEq, Repr

namespace Request

def get (url : String) : Request := ⟨.get, url, none, ""⟩

def head (url : String) : Request := ⟨.head, url, none, ""⟩

def post (url contentType body : String) : Request := ⟨.post, url, some contentType, body⟩

end Request

structure Response where
  status : Nat
  body : String
  deriving DecidableEq, Repr

/-- Whether a status stands for success. -/
def isSuccess (status : Nat) : Bool := 200 ≤ status && status < 300

def Response.isSuccess (r : Response) : Bool := Http.isSuccess r.status

/-- A client whose servers live in a world `ω`. -/
structure Client (ω : Type) where
  send : Request → Call String ω Response

namespace Client

variable {σ ω : Type}

/-- A client that reaches nobody. -/
def unreachable : Client ω := ⟨fun r => Call.fail s!"error sending request for url ({r.url})"⟩

/-- A client of a part of the world. -/
def within (c : Client σ) (get : ω → σ) (set : σ → ω → ω) : Client ω :=
  ⟨fun r => (c.send r).within get set⟩

/-- The client with every request noted before it is sent. -/
def noting (c : Client ω) (note : Request → ω → ω) : Client ω := ⟨fun r w => c.send r (note r w)⟩

end Client

end CatalogSync.Http
