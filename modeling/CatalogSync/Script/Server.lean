import CatalogSync.Http.Basic
import CatalogSync.Http.Url
import CatalogSync.Load.BulkBody

/-!
# Scripted web servers

A web server that answers from rules, to try out indexes without a search engine. Where no rule
says otherwise, it accepts everything.
-/

namespace CatalogSync

/-- How some requests of one method are answered: the `nth` and those after it, `times` in all. -/
structure ServerRule where
  method : Http.Method
  /-- The path that a request has to ask for, if it matters. -/
  target : Option String
  nth : Nat
  times : Nat
  status : Nat
  body : String
  /-- Close the connection without an answer. -/
  drops : Bool

def ServerRule.hits (r : ServerRule) (method : Http.Method) (target : String) (n : Nat) : Bool :=
  r.method = method && r.target.all (· = target) && r.nth ≤ n && n < r.nth + r.times

/-- A request as the server sees it. -/
structure ServerRequest where
  method : Http.Method
  target : String
  contentType : Option String
  body : String

/-- A scripted server at work. -/
structure ScriptedServer where
  /-- Host and port. -/
  authority : String
  isListening : Bool
  rules : List ServerRule
  /-- The method of every request so far. -/
  methods : List Http.Method
  /-- The requests that are still to be looked at, the last first. -/
  requests : List ServerRequest

namespace ScriptedServer

/-- A server that nothing was asked of. -/
def ofRules (isListening : Bool) (rules : List ServerRule) : ScriptedServer :=
  ⟨"127.0.0.1:9200", isListening, rules, [], []⟩

/-- The address of the server's root. -/
def url (s : ScriptedServer) : String := "http://" ++ s.authority

/-- The reply to a bulk request all of whose actions succeed. -/
def acceptAll (body : String) : String :=
  let item (a : BulkAction) : Json :=
    .obj [("index", .obj [("_id", .str a.id), ("status", .int 200)])]
  let actions := ((BulkBody.read? body.toList).getD []).map Prod.fst
  (Json.obj [("errors", .bool false), ("items", .arr (actions.map item))]).compact

/-- The requests to look at, in order, and the server with none of them. -/
def takeRequests (s : ScriptedServer) : List ServerRequest × ScriptedServer :=
  (s.requests.reverse, { s with requests := [] })

/-- The answer to a request that arrived, if there is one. -/
def respond (s : ScriptedServer) (r : ServerRequest) : Option Http.Response :=
  let n := s.methods.count r.method + 1
  match s.rules.find? (·.hits r.method r.target n) with
  | some rule => if rule.drops then none else some ⟨rule.status, rule.body⟩
  | none => some ⟨200, if r.method = .post then acceptAll r.body else ""⟩

/-- What a client is told of a request that was not answered. -/
def unanswered (url : String) : String := s!"error sending request for url ({url})"

/-- A client from which only this server can be reached. -/
def client : Http.Client ScriptedServer where
  send r s :=
    match Http.Url.parse? r.url with
    | none => (.error "builder error", s)
    | some url =>
      if s.isListening && url.authority = s.authority then
        let seen : ServerRequest := ⟨r.method, url.target, r.contentType, r.body⟩
        let after :=
          { s with methods := seen.method :: s.methods, requests := seen :: s.requests }
        match s.respond seen with
        | some response => (.ok response, after)
        | none => (.error (unanswered r.url), after)
      else (.error (unanswered r.url), s)

end ScriptedServer

end CatalogSync
