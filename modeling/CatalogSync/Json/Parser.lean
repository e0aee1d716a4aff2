import CatalogSync.Decimal.Reader
import CatalogSync.Json.Basic
import CatalogSync.Text.Hexadecimal

/-!
# Reading JSON text

A reader over the characters of the text. Each step returns the value it read and what is left.
Nesting is limited to `maxDepth` arrays and objects. The members of an object come out in the
order of the text, repeated names included.
-/

namespace CatalogSync.Json

/-- The blanks between tokens. -/
def isSpace (c : Char) : Bool := c = ' ' || c = '\n' || c = '\t' || c = '\r'

def skipSpaces (cs : List Char) : List Char := cs.dropWhile isSpace

/-- The UTF-16 unit of a `\u` escape. -/
def unit? (a b c d : Char) : Option Nat := do
  let value? := Text.Hexadecimal.value?
  some (((← value? a) * 16 + (← value? b)) * 256 + (← value? c) * 16 + (← value? d))

/-- The character of a one letter escape. -/
def escaped? : Char → Option Char
  | '"' => some '"'
  | '\\' => some '\\'
  | '/' => some '/'
  | 'b' => some '\x08'
  | 'f' => some '\x0c'
  | 'n' => some '\n'
  | 'r' => some '\r'
  | 't' => some '\t'
  | _ => none

/-- The rest of a string after its opening quote. A surrogate has to be one of a pair. -/
def readString : List Char → Option (List Char × List Char)
  | [] => none
  | '"' :: rest => some ([], rest)
  | '\\' :: 'u' :: a :: b :: c :: d :: rest => do
    let n ← unit? a b c d
    if 0xd800 ≤ n ∧ n < 0xdc00 then
      match rest with
      | '\\' :: 'u' :: a' :: b' :: c' :: d' :: rest' =>
        let n' ← unit? a' b' c' d'
        if 0xdc00 ≤ n' ∧ n' < 0xe000 then
          let (s, left) ← readString rest'
          some (Char.ofNat (0x10000 + (n - 0xd800) * 0x400 + (n' - 0xdc00)) :: s, left)
        else none
      | _ => none
    else if 0xdc00 ≤ n ∧ n < 0xe000 then none
    else
      let (s, left) ← readString rest
      some (Char.ofNat n :: s, left)
  | '\\' :: c :: rest => do
    let c ← escaped? c
    let (s, left) ← readString rest
    some (c :: s, left)
  | c :: rest =>
    if c.toNat < 0x20 then none
    else do
      let (s, left) ← readString rest
      some (c :: s, left)

/-- The largest significand that is kept exactly. -/
def maxSignificand : Nat := Nat.pow 2 64 - 1

/-- Digits put behind a significand as long as it stays in range: the significand, how many. -/
def readDigits (significand : Nat) : List Char → Nat × Nat × List Char
  | [] => (significand, 0, [])
  | c :: rest =>
    let next := 10 * significand + (c.toNat - '0'.toNat)
    if c.isDigit && next ≤ maxSignificand then
      let (s, n, left) := readDigits next rest
      (s, n + 1, left)
    else (significand, 0, c :: rest)

/-- A double with its sign; `none` beyond the largest double. -/
def signedFloat? (negative : Bool) (significand : Nat) (exponent : Int) : Option Json := do
  let f ← Decimal.scale? significand exponent
  some (float (if negative then -f else f))

/-- The rest of a number from where its exponent may stand. -/
def readExponent (negative : Bool) (significand : Nat) (exponent : Int) (cs : List Char) :
    Option (Json × List Char) := do
  match cs with
  | c :: rest =>
    if c = 'e' ∨ c = 'E' then
      let (down, rest) := match rest with
        | '+' :: r => (false, r)
        | '-' :: r => (true, r)
        | r => (false, r)
      let digits := rest.takeWhile Char.isDigit
      if digits.isEmpty then none
      else
        let power : Int := Decimal.ofDigits 0 digits
        let exponent := if down then exponent - power else exponent + power
        let j ← signedFloat? negative significand exponent
        some (j, rest.dropWhile Char.isDigit)
    else
      let j ← signedFloat? negative significand exponent
      some (j, cs)
  | [] =>
    let j ← signedFloat? negative significand exponent
    some (j, [])

/-- The rest of a number after its point. Digits beyond the significand's range are dropped. -/
def readFraction (negative : Bool) (significand : Nat) (exponent : Int) (cs : List Char) :
    Option (Json × List Char) :=
  if (cs.head?.map Char.isDigit).getD false then
    let (significand, used, rest) := readDigits significand cs
    readExponent negative significand (exponent - used) (rest.dropWhile Char.isDigit)
  else none

/-- A whole number; zero with a sign and what does not fit 64 bits are doubles. -/
def wholeNumber (negative : Bool) (significand : Nat) : Json :=
  if negative then
    if significand = 0 ∨ Nat.pow 2 63 < significand then float (-Float.ofNat significand)
    else int (-significand)
  else int significand

/-- The part of a number after its sign. A zero in front stands alone. -/
def readUnsigned (negative : Bool) (cs : List Char) : Option (Json × List Char) :=
  match cs with
  | [] => none
  | c :: rest =>
    if ¬ c.isDigit then none
    else if c = '0' ∧ (rest.head?.map Char.isDigit).getD false then none
    else
      let (significand, _, rest) := readDigits 0 cs
      let extra := (rest.takeWhile Char.isDigit).length
      let rest := rest.dropWhile Char.isDigit
      match rest with
      | '.' :: fraction => readFraction negative significand extra fraction
      | c :: _ =>
        if c = 'e' ∨ c = 'E' ∨ 0 < extra then readExponent negative significand extra rest
        else some (wholeNumber negative significand, rest)
      | [] =>
        if 0 < extra then readExponent negative significand extra []
        else some (wholeNumber negative significand, [])

def readNumber : List Char → Option (Json × List Char)
  | '-' :: rest => readUnsigned true rest
  | cs => readUnsigned false cs

/-- How deep arrays and objects may nest. -/
def maxDepth : Nat := 127

mutual

/-- A value with what is left behind it, in `fuel` steps, with `depth` levels to spare. -/
def readValue : (fuel depth : Nat) → List Char → Option (Json × List Char)
  | 0, _, _ => none
  | fuel + 1, depth, cs =>
    match skipSpaces cs with
    | 'n' :: 'u' :: 'l' :: 'l' :: rest => some (null, rest)
    | 't' :: 'r' :: 'u' :: 'e' :: rest => some (bool true, rest)
    | 'f' :: 'a' :: 'l' :: 's' :: 'e' :: rest => some (bool false, rest)
    | '"' :: rest => do
      let (s, left) ← readString rest
      some (str (String.ofList s), left)
    | '[' :: rest =>
      match depth, skipSpaces rest with
      | 0, _ => none
      | _ + 1, ']' :: left => some (arr [], left)
      | depth + 1, rest => do
        let (items, left) ← readItems fuel depth rest
        some (arr items, left)
    | '\x7b' :: rest =>
      match depth, skipSpaces rest with
      | 0, _ => none
      | _ + 1, '\x7d' :: left => some (obj [], left)
      | depth + 1, rest => do
        let (members, left) ← readMembers fuel depth rest
        some (obj members, left)
    | rest => readNumber rest

/-- One or more items and the closing bracket. -/
def readItems : (fuel depth : Nat) → List Char → Option (List Json × List Char)
  | 0, _, _ => none
  | fuel + 1, depth, cs => do
    let (j, rest) ← readValue fuel depth cs
    match skipSpaces rest with
    | ',' :: rest =>
      let (items, left) ← readItems fuel depth rest
      some (j :: items, left)
    | ']' :: left => some ([j], left)
    | _ => none

/-- One or more members and the closing brace. -/
def readMembers : (fuel depth : Nat) → List Char → Option (List (String × Json) × List Char)
  | 0, _, _ => none
  | fuel + 1, depth, cs =>
    match skipSpaces cs with
    | '"' :: rest => do
      let (name, rest) ← readString rest
      match skipSpaces rest with
      | ':' :: rest =>
        let (j, rest) ← readValue fuel depth rest
        match skipSpaces rest with
        | ',' :: rest =>
          let (members, left) ← readMembers fuel depth rest
          some ((String.ofList name, j) :: members, left)
        | '\x7d' :: left => some ([(String.ofList name, j)], left)
        | _ => none
      | _ => none
    | _ => none

end

/-- The value a text spells, as it is spelled; `none` unless the text is one JSON value. -/
def read? (cs : List Char) : Option Json :=
  match readValue (2 * cs.length + 2) maxDepth cs with
  | some (j, rest) => if skipSpaces rest = [] then some j else none
  | none => none

/-- The value of a text, with the members of every object in order. -/
def parse? (text : String) : Option Json := (read? text.toList).map canonical

end CatalogSync.Json
