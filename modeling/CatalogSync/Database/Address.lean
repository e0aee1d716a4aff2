import CatalogSync.Database.NetworkAddress
import CatalogSync.Decimal.Reader
import CatalogSync.Text.Blank
import CatalogSync.Text.Percent
import CatalogSync.Text.Utf8

/-!
# Database addresses

Where a database is and how it is to be spoken to, written as a list of settings
(`host=db port=5432 user=app`) or as a web address
(`postgres://app@db:5432/name?connect_timeout=5`). Several hosts may be named and are tried in
order.
-/

namespace CatalogSync

/-- A host, or a socket in the file system, and a port. -/
structure Endpoint where
  host : String
  port : Nat
  deriving DecidableEq, Repr

/-- What an address says about places; the other settings only have to be well formed. -/
structure DatabaseAddress where
  hosts : List String
  /-- Hosts in numbers, which need not be looked up. -/
  hostAddresses : List String
  ports : List Nat
  deriving DecidableEq, Repr

/-- Why an address leads nowhere. -/
inductive AddressFault where
  /-- It is not written as an address. -/
  | malformed
  /-- It names no host, or its parts do not go together. -/
  | incomplete
  deriving DecidableEq, Repr

namespace DatabaseAddress

def nowhere : DatabaseAddress := ⟨[], [], []⟩

def defaultPort : Nat := 5432

/-- A text cut at commas. -/
def listed (value : String) : List String :=
  (NetworkAddress.splitAt ',' value.toList).map String.ofList

def port? (text : String) : Option Nat :=
  if text = "" then some defaultPort
  else
    match Decimal.takeSign text.toList with
    | (true, _) => none
    | (false, digits) => do
      let n ← Decimal.readNat? digits
      if n < Nat.pow 2 16 then some n else none

/-- Whether a text is a whole number in a range. -/
def isWhole (low high : Int) (text : String) : Bool :=
  match Decimal.readInt? text.toList with
  | some n => low ≤ n && n ≤ high
  | none => false

/-- Whether a text is a whole number without a minus sign. -/
def isCount (high : Int) (text : String) : Bool := isWhole 0 high text && !text.startsWith "-"

/-- Whether a setting other than the place may have a value; `none` for an unknown setting. -/
def accepts? (key value : String) : Option Bool :=
  match key with
  | "user" | "password" | "dbname" | "options" | "application_name" => some true
  | "sslmode" => some (value ∈ ["disable", "prefer", "require"])
  | "sslnegotiation" => some (value ∈ ["postgres", "direct"])
  | "connect_timeout" | "tcp_user_timeout" | "keepalives_idle" | "keepalives_interval" =>
    some (isWhole (-Int.pow 2 63) (Int.pow 2 63 - 1) value)
  | "keepalives" => some (isCount (Nat.pow 2 64 - 1) value)
  | "keepalives_retries" => some (isCount (Nat.pow 2 32 - 1) value)
  | "target_session_attrs" => some (value ∈ ["any", "read-write", "read-only"])
  | "channel_binding" => some (value ∈ ["disable", "prefer", "require"])
  | "load_balance_hosts" => some (value ∈ ["disable", "random"])
  | _ => none

/-- The address with one more setting. -/
def set? (a : DatabaseAddress) (key value : String) : Option DatabaseAddress :=
  match key with
  | "host" => some { a with hosts := a.hosts ++ listed value }
  | "hostaddr" =>
    let addresses := listed value
    if addresses.all NetworkAddress.isNumeric then
      some { a with hostAddresses := a.hostAddresses ++ addresses }
    else none
  | "port" => do some { a with ports := a.ports ++ (← (listed value).mapM port?) }
  | _ => if accepts? key value = some true then some a else none

/-! ## Lists of settings -/

/-- A value without quotes, up to a blank. A backslash takes the next character as it is. -/
def plainValue : List Char → List Char × List Char
  | [] => ([], [])
  | ['\\'] => ([], [])
  | '\\' :: c :: rest =>
    let (value, left) := plainValue rest
    (c :: value, left)
  | c :: rest =>
    if Text.isBlank c then ([], c :: rest)
    else
      let (value, left) := plainValue rest
      (c :: value, left)

/-- A value behind an opening quote, up to the closing one. -/
def quotedValue : List Char → Option (List Char × List Char)
  | [] => none
  | '\'' :: rest => some ([], rest)
  | ['\\'] => none
  | '\\' :: c :: rest => do
    let (value, left) ← quotedValue rest
    some (c :: value, left)
  | c :: rest => do
    let (value, left) ← quotedValue rest
    some (c :: value, left)

def value? : List Char → Option (List Char × List Char)
  | '\'' :: rest => quotedValue rest
  | cs =>
    match plainValue cs with
    | ([], _) => none
    | found => some found

/-- The settings of a list, one after the other. The list ends where no name stands. -/
def ofSettings? (a : DatabaseAddress) : (fuel : Nat) → List Char → Option DatabaseAddress
  | 0, _ => none
  | fuel + 1, cs =>
    let cs := Text.trimStart cs
    let inName (c : Char) : Bool := !Text.isBlank c && c ≠ '='
    match cs.takeWhile inName with
    | [] => some a
    | name => do
      match Text.trimStart (cs.dropWhile inName) with
      | '=' :: rest =>
        let (value, left) ← value? (Text.trimStart rest)
        ofSettings? (← a.set? (String.ofList name) (String.ofList value)) fuel left
      | _ => none

/-! ## Web addresses -/

/-- A text cut at the first character of a kind; nothing if there is none. -/
def cutAt? (stops : Char → Bool) (cs : List Char) : Option (List Char × List Char) :=
  match cs.dropWhile (!stops ·) with
  | [] => none
  | rest => some (cs.takeWhile (!stops ·), rest)

/-- Host and port of one place; a host in brackets may hold colons. -/
def place? (cs : List Char) : Option (List Char × Option (List Char)) :=
  match cs with
  | '[' :: rest => do
    let (host, rest) ← cutAt? (· = ']') rest
    match rest.drop 1 with
    | [] => some (host, none)
    | ':' :: port => some (host, some port)
    | _ => none
  | cs =>
    match cutAt? (· = ':') cs with
    | some (host, port) => some (host, some (port.drop 1))
    | none => some (cs, none)

/-- One host of a web address; it is never a list. The path of a socket may be of any bytes. -/
def addHost? (a : DatabaseAddress) (cs : List Char) : Option DatabaseAddress := do
  let bytes : ByteArray := ⟨(Text.Percent.bytes cs).toArray⟩
  let host ← if bytes[0]? = some 0x2f then some (Text.Utf8.lossy bytes) else String.fromUTF8? bytes
  some { a with hosts := a.hosts ++ [host] }

/-- The places of a web address; each comes with a port. -/
def addPlaces? (a : DatabaseAddress) : List (List Char) → Option DatabaseAddress
  | [] => some a
  | cs :: rest => do
    let (host, port) ← place? cs
    let port ← match port with
      | some port => Text.Percent.decode? port
      | none => some (toString defaultPort)
    addPlaces? (← (← a.addHost? host).set? "port" port) rest

/-- The settings behind the question mark of a web address. -/
def addParameters? (a : DatabaseAddress) : (fuel : Nat) → List Char → Option DatabaseAddress
  | 0, _ => none
  | _, [] => some a
  | fuel + 1, cs => do
    let (key, rest) ← cutAt? (· = '=') cs
    let key ← Text.Percent.decode? key
    let rest := rest.drop 1
    let (value, rest) := (cutAt? (· = '&') rest).getD (rest, [])
    let a ← if key = "host" then a.addHost? value
      else do a.set? key (← Text.Percent.decode? value)
    addParameters? a fuel (rest.drop 1)

/-- What stands behind the scheme of a web address. -/
def ofWebAddress? (cs : List Char) : Option DatabaseAddress := do
  let (user, rest) := match cutAt? (· = '@') cs with
    | some (credentials, rest) => (credentials.takeWhile (· ≠ ':'), rest.drop 1)
    | none => ([], cs)
  let _ ← Text.Percent.decode? user
  let (places, rest) := (cutAt? (fun c => c = '/' || c = '?') rest).getD (rest, [])
  let a ← if places = [] then some nowhere
    else nowhere.addPlaces? (NetworkAddress.splitAt ',' places)
  let (name, rest) := match rest with
    | '/' :: rest => (cutAt? (· = '?') rest).getD (rest, [])
    | rest => ([], rest)
  let _ ← Text.Percent.decode? name
  let parameters := rest.drop 1
  a.addParameters? (parameters.length + 1) parameters

/-- What stands behind one of some beginnings. -/
def behind? (cs : List Char) : List String → Option (List Char)
  | [] => none
  | start :: more =>
    if start.toList.isPrefixOf cs then some (cs.drop start.length) else behind? cs more

/-- Read an address in either form. -/
def parse? (text : String) : Option DatabaseAddress :=
  let cs := text.toList
  match behind? cs ["postgres://", "postgresql://"] with
  | some rest => ofWebAddress? rest
  | none => nowhere.ofSettings? (cs.length + 1) cs

/-- The endpoints of an address, in the order in which they are tried. -/
def endpoints? (a : DatabaseAddress) : Option (List Endpoint) :=
  let places := if a.hostAddresses = [] then a.hosts else a.hostAddresses
  if places = [] then none
  else if a.hosts ≠ [] ∧ a.hosts.length ≠ places.length then none
  else if 1 < a.ports.length ∧ a.ports.length ≠ places.length then none
  else
    let ports := a.ports ++ List.replicate places.length (a.ports.head?.getD defaultPort)
    some (places.zipWith Endpoint.mk ports)

/-- The endpoints that a text names. -/
def resolve (text : String) : Except AddressFault (List Endpoint) :=
  match parse? text with
  | none => .error .malformed
  | some a =>
    match a.endpoints? with
    | some endpoints => .ok endpoints
    | none => .error .incomplete

end DatabaseAddress

end CatalogSync
