import CatalogSync.Decimal.Layout
import CatalogSync.Json.Basic
import CatalogSync.Text.Quoted

/-!
# Decoding JSON values

A decoder turns a JSON value into a value of another type or says what is wrong with it. A record
is read from an object by the names of its fields, or from an array by their order. Of an object
the members are checked in its own order, and only then is a missing field noticed, in the order
of the fields.
-/

namespace CatalogSync

/-- Why a JSON value is not of a type. -/
inductive DecodeError where
  | missingField (name : String)
  | repeatedField (name : String)
  | wrongType (found : Json) (expected : String)
  | outOfRange (found : Json) (expected : String)
  | wrongLength (length : Nat) (expected : String)
  | badTimestamp
  deriving Repr

namespace Json

/-- What a message calls a value. -/
def description : Json → String
  | null => "null"
  | bool b => s!"boolean `{b}`"
  | int n => s!"integer `{n}`"
  | float x => "floating point `" ++ Decimal.Layout.json.text x ++ "`"
  | str s => "string " ++ Text.quoted s
  | arr _ => "sequence"
  | obj _ => "map"

end Json

/-- The text of a decode error. -/
def DecodeError.message : DecodeError → String
  | missingField name => s!"missing field `{name}`"
  | repeatedField name => s!"duplicate field `{name}`"
  | wrongType found expected => s!"invalid type: {found.description}, expected {expected}"
  | outOfRange found expected => s!"invalid value: {found.description}, expected {expected}"
  | wrongLength length expected => s!"invalid length {length}, expected {expected}"
  | badTimestamp => "bad timestamp"

/-- Reads a value of type `α` from a JSON value. -/
abbrev Decoder (α : Type) := Json → Except DecodeError α

namespace Decoder

def json : Decoder Json := .ok

def string : Decoder String
  | .str s => .ok s
  | j => .error (.wrongType j "a string")

def bool : Decoder Bool
  | .bool b => .ok b
  | j => .error (.wrongType j "a boolean")

/-- A double; a whole number is rounded to one. -/
def float : Decoder Float
  | .float x => .ok x
  | .int n => .ok (Float.ofInt n)
  | j => .error (.wrongType j "f64")

/-- A whole number from `low` to `high`; a double is never one. -/
def whole (type : String) (low high : Int) : Decoder Int
  | .int n => if low ≤ n ∧ n ≤ high then .ok n else .error (.outOfRange (.int n) type)
  | j => .error (.wrongType j type)

/-- A whole number from zero to `high`. -/
def natural (type : String) (high : Nat) : Decoder Nat := fun j =>
  (whole type 0 high j).map Int.toNat

/-- A count of things. -/
def count : Decoder Nat := natural "usize" (Nat.pow 2 64 - 1)

def nat16 : Decoder Nat := natural "u16" (Nat.pow 2 16 - 1)

def nat32 : Decoder Nat := natural "u32" (Nat.pow 2 32 - 1)

def nat64 : Decoder Nat := natural "u64" (Nat.pow 2 64 - 1)

def int32 : Decoder Int := whole "i32" (-Int.pow 2 31) (Int.pow 2 31 - 1)

/-- `null`, or a value. -/
def optional {α : Type} (d : Decoder α) : Decoder (Option α)
  | .null => .ok none
  | j => (d j).map some

def list {α : Type} (d : Decoder α) : Decoder (List α)
  | .arr items => items.mapM d
  | j => .error (.wrongType j "a sequence")

end Decoder

/-- What is checked of one field before a record is built. -/
structure FieldCheck where
  name : String
  required : Bool
  check : Json → Except DecodeError Unit

/-- Some fields in the order of their declaration, and the value they build. -/
structure Fields (α : Type) where
  checks : List FieldCheck
  build : (String → Option Json) → Except DecodeError α

namespace Fields

variable {α β : Type}

/-- A field that has to be there. -/
def required (name : String) (d : Decoder α) : Fields α where
  checks := [⟨name, true, fun j => (d j).map fun _ => ()⟩]
  build find := match find name with
    | some j => d j
    | none => .error (.missingField name)

/-- A field that takes a default when it is missing. -/
def defaulted (name : String) (d : Decoder α) (value : α) : Fields α where
  checks := [⟨name, false, fun j => (d j).map fun _ => ()⟩]
  build find := match find name with
    | some j => d j
    | none => .ok value

protected def pure (a : α) : Fields α := ⟨[], fun _ => .ok a⟩

protected def seq (f : Fields (α → β)) (x : Unit → Fields α) : Fields β where
  checks := f.checks ++ (x ()).checks
  build find := do return (← f.build find) (← (x ()).build find)

instance : Applicative Fields where
  pure := Fields.pure
  seq := Fields.seq

/-- The first thing wrong with the members of an object, in their order. -/
def checkMembers (checks : List FieldCheck) : List (String × Json) → Except DecodeError Unit
  | [] => .ok ()
  | (name, j) :: rest => do
    match checks.find? (·.name = name) with
    | some field => field.check j
    | none => .ok ()
    checkMembers checks rest

/-- The first thing wrong with the items of an array: each is checked as the field in its place,
and the array may end only where the fields left have defaults. An array that ends too early is
refused at the place of the first required field it lacks, which may stand past its end. -/
def checkItems (shape : String) (place : Nat) :
    List FieldCheck → List Json → Except DecodeError Unit
  | [], [] => .ok ()
  | [], rest => .error (.wrongLength (place + rest.length) "fewer elements in array")
  | field :: fields, [] =>
    if field.required then .error (.wrongLength place shape)
    else checkItems shape (place + 1) fields []
  | field :: fields, j :: rest => do
    field.check j
    checkItems shape (place + 1) fields rest

/-- A record of the given type name. -/
def decode (type : String) (fields : Fields α) : Decoder α
  | .obj members => do
    checkMembers fields.checks members
    fields.build fun name => members.lookup name
  | .arr items => do
    let n := fields.checks.length
    let plural := if n = 1 then "" else "s"
    checkItems s!"struct {type} with {n} element{plural}" 0 fields.checks items
    fields.build fun name => ((fields.checks.map FieldCheck.name).zip items).lookup name
  | j => .error (.wrongType j s!"struct {type}")

/-- A name of a field that stands before a member of the same name. -/
def repeated? (checks : List FieldCheck) : List (String × Json) → Option String
  | [] => none
  | (name, _) :: rest =>
    if checks.any (·.name = name) && rest.any (·.1 = name) then some name
    else repeated? checks rest

/-- A record of the given type name, none of whose fields may be repeated. -/
def decodeOnce (type : String) (fields : Fields α) : Decoder α := fun j =>
  let names := match j with
    | .obj members => members
    | _ => []
  match repeated? fields.checks names with
  | some name => .error (.repeatedField name)
  | none => fields.decode type j

end Fields

end CatalogSync
