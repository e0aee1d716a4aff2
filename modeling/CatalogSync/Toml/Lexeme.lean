import CatalogSync.Decimal.Reader
import CatalogSync.Json.Parser
import CatalogSync.Timestamp.Basic

/-!
# TOML lexemes

The parts of a TOML document that do not nest: blanks and comments, keys, strings, numbers, and
dates and times. Each reader returns what it read and what is left.
-/

namespace CatalogSync.Toml

/-- What separates the parts of a line. -/
def isBlank (c : Char) : Bool := c = ' ' || c = '\t'

def skipBlanks (cs : List Char) : List Char := cs.dropWhile isBlank

/-- Characters that comments and strings may hold: no controls but the tab. -/
def isText (c : Char) : Bool := c = '\t' || (0x20 ≤ c.toNat && c.toNat ≠ 0x7f)

/-- What is left after a comment, if there is one. -/
def skipComment : List Char → List Char
  | '#' :: rest => rest.dropWhile isText
  | cs => cs

/-- What is left after the end of a line: a newline or the end of the text. -/
def lineEnd? : List Char → Option (List Char)
  | [] => some []
  | '\n' :: rest => some rest
  | '\r' :: '\n' :: rest => some rest
  | _ => none

/-- What is left after the end of a line with blanks and a comment before it. -/
def restOfLine? (cs : List Char) : Option (List Char) := lineEnd? (skipComment (skipBlanks cs))

/-! ## Strings -/

/-- The character of a one letter escape. -/
def escaped? : Char → Option Char
  | 'b' => some '\x08'
  | 't' => some '\t'
  | 'n' => some '\n'
  | 'f' => some '\x0c'
  | 'r' => some '\r'
  | '"' => some '"'
  | '\\' => some '\\'
  | _ => none

/-- The character with a number. -/
def scalar? (n : Nat) : Option Char := if n.isValidChar then some (Char.ofNat n) else none

/-- Whether only blanks stand before the end of the line. -/
def endsLine (cs : List Char) : Bool :=
  match skipBlanks cs with
  | '\n' :: _ => true
  | '\r' :: '\n' :: _ => true
  | _ => false

/-- The rest of a string after its opening quotes. In a string of several lines a backslash at the
end of a line makes `trimming`: blanks and newlines up to the next character are left out. -/
def readQuoted (multiline trimming : Bool) : List Char → Option (List Char × List Char)
  | [] => none
  | '"' :: '"' :: '"' :: '"' :: '"' :: rest =>
    if multiline then some (['"', '"'], rest) else some ([], '"' :: '"' :: '"' :: '"' :: rest)
  | '"' :: '"' :: '"' :: '"' :: rest =>
    if multiline then some (['"'], rest) else some ([], '"' :: '"' :: '"' :: rest)
  | '"' :: '"' :: '"' :: rest =>
    if multiline then some ([], rest) else some ([], '"' :: '"' :: rest)
  | '"' :: rest =>
    if multiline then do
      let (s, left) ← readQuoted multiline false rest
      some ('"' :: s, left)
    else some ([], rest)
  | '\\' :: 'u' :: a :: b :: c :: d :: rest => do
    let ch ← scalar? (← Json.unit? a b c d)
    let (s, left) ← readQuoted multiline false rest
    some (ch :: s, left)
  | '\\' :: 'U' :: a :: b :: c :: d :: e :: f :: g :: h :: rest => do
    let ch ← scalar? ((← Json.unit? a b c d) * 65536 + (← Json.unit? e f g h))
    let (s, left) ← readQuoted multiline false rest
    some (ch :: s, left)
  | '\\' :: c :: rest =>
    if multiline && endsLine (c :: rest) then readQuoted multiline true (c :: rest)
    else do
      let ch ← escaped? c
      let (s, left) ← readQuoted multiline false rest
      some (ch :: s, left)
  | '\r' :: '\n' :: rest =>
    if !multiline then none
    else if trimming then readQuoted multiline true rest
    else do
      let (s, left) ← readQuoted multiline false rest
      some ('\n' :: s, left)
  | c :: rest =>
    if trimming && (isBlank c || c = '\n') then readQuoted multiline true rest
    else if isText c || (multiline && c = '\n') then do
      let (s, left) ← readQuoted multiline false rest
      some (c :: s, left)
    else none

/-- The rest of a string without escapes after its opening quotes. -/
def readLiteral (multiline : Bool) : List Char → Option (List Char × List Char)
  | [] => none
  | '\'' :: '\'' :: '\'' :: '\'' :: '\'' :: rest =>
    if multiline then some (['\'', '\''], rest)
    else some ([], '\'' :: '\'' :: '\'' :: '\'' :: rest)
  | '\'' :: '\'' :: '\'' :: '\'' :: rest =>
    if multiline then some (['\''], rest) else some ([], '\'' :: '\'' :: '\'' :: rest)
  | '\'' :: '\'' :: '\'' :: rest =>
    if multiline then some ([], rest) else some ([], '\'' :: '\'' :: rest)
  | '\'' :: rest =>
    if multiline then do
      let (s, left) ← readLiteral multiline rest
      some ('\'' :: s, left)
    else some ([], rest)
  | '\r' :: '\n' :: rest =>
    if multiline then do
      let (s, left) ← readLiteral multiline rest
      some ('\n' :: s, left)
    else none
  | c :: rest =>
    if isText c || (multiline && c = '\n') then do
      let (s, left) ← readLiteral multiline rest
      some (c :: s, left)
    else none

/-- A newline right behind the opening quotes of a string is not part of it. -/
def dropFirstNewline : List Char → List Char
  | '\n' :: rest => rest
  | '\r' :: '\n' :: rest => rest
  | cs => cs

/-- A string of any of the four kinds. -/
def readString? : List Char → Option (String × List Char)
  | '"' :: '"' :: '"' :: rest => do
    let (s, left) ← readQuoted true false (dropFirstNewline rest)
    some (String.ofList s, left)
  | '"' :: rest => do
    let (s, left) ← readQuoted false false rest
    some (String.ofList s, left)
  | '\'' :: '\'' :: '\'' :: rest => do
    let (s, left) ← readLiteral true (dropFirstNewline rest)
    some (String.ofList s, left)
  | '\'' :: rest => do
    let (s, left) ← readLiteral false rest
    some (String.ofList s, left)
  | _ => none

/-! ## Keys -/

def isKeyChar (c : Char) : Bool := c.isAlphanum || c = '_' || c = '-'

/-- One part of a key. A quoted one is on one line. -/
def readKeyPart? : List Char → Option (String × List Char)
  | '"' :: rest => do
    let (s, left) ← readQuoted false false rest
    some (String.ofList s, left)
  | '\'' :: rest => do
    let (s, left) ← readLiteral false rest
    some (String.ofList s, left)
  | cs =>
    let name := cs.takeWhile isKeyChar
    if name = [] then none else some (String.ofList name, cs.dropWhile isKeyChar)

/-- A key: parts with points between them, in at most `fuel` parts. -/
def readKey? : (fuel : Nat) → List Char → Option (List String × List Char)
  | 0, _ => none
  | fuel + 1, cs => do
    let (part, rest) ← readKeyPart? (skipBlanks cs)
    match skipBlanks rest with
    | '.' :: rest =>
      let (parts, left) ← readKey? fuel rest
      some (part :: parts, left)
    | rest => some ([part], rest)

/-! ## Numbers -/

/-- Digits after the first one, with single underscores between them. -/
def moreDigits (isDigit : Char → Bool) : List Char → List Char × List Char
  | '_' :: c :: rest =>
    if isDigit c then
      let (digits, left) := moreDigits isDigit rest
      (c :: digits, left)
    else ([], '_' :: c :: rest)
  | c :: rest =>
    if isDigit c then
      let (digits, left) := moreDigits isDigit rest
      (c :: digits, left)
    else ([], c :: rest)
  | [] => ([], [])

/-- One or more digits. -/
def readDigits? (isDigit : Char → Bool) : List Char → Option (List Char × List Char)
  | c :: rest =>
    if isDigit c then
      let (digits, left) := moreDigits isDigit rest
      some (c :: digits, left)
    else none
  | [] => none

/-- The digits of a whole number; a zero in front stands alone. -/
def readWhole? : List Char → Option (List Char × List Char)
  | '0' :: rest => some (['0'], rest)
  | cs => readDigits? Char.isDigit cs

/-- A whole number that fits 64 bits with a sign. -/
def int64? (n : Int) : Option Json :=
  if -Int.pow 2 63 ≤ n ∧ n < Int.pow 2 63 then some (.int n) else none

/-- A whole number in another base, after its mark. -/
def readBased? (base : Nat) (cs : List Char) : Option (Json × List Char) := do
  let isDigit (c : Char) : Bool := match Text.Hexadecimal.value? c with
    | some d => d < base
    | none => false
  let (digits, left) ← readDigits? isDigit cs
  let n := digits.foldl (fun n d => base * n + (Text.Hexadecimal.value? d).getD 0) 0
  some (← int64? n, left)

/-- The exponent behind a decimal, if there is one. -/
def readExponent? (cs : List Char) : Option (Int × List Char) :=
  match cs with
  | c :: rest =>
    if c = 'e' ∨ c = 'E' then do
      let (negative, rest) := Decimal.takeSign rest
      let (digits, left) ← readDigits? Char.isDigit rest
      let n : Int := Decimal.ofDigits 0 digits
      some (if negative then -n else n, left)
    else some (0, cs)
  | [] => some (0, [])

/-- A decimal with its sign. One beyond the largest double is refused; one beyond the least is
negative infinity. -/
def signedDecimal? (negative : Bool) (significand : Nat) (exponent : Int) : Option Json :=
  let x := Decimal.nearest significand exponent
  if negative then some (.float (-x)) else if x.isFinite then some (.float x) else none

/-- A number after its sign. -/
def readUnsigned? (negative : Bool) : List Char → Option (Json × List Char)
  | 'i' :: 'n' :: 'f' :: rest => some (.float (if negative then -1 / 0 else 1 / 0), rest)
  | 'n' :: 'a' :: 'n' :: rest => some (.float (0 / 0), rest)
  | cs => do
    let (whole, rest) ← readWhole? cs
    match rest with
    | '.' :: rest =>
      let (fraction, rest) ← readDigits? Char.isDigit rest
      let (exponent, left) ← readExponent? rest
      let j ← signedDecimal? negative (Decimal.ofDigits 0 (whole ++ fraction))
        (exponent - fraction.length)
      some (j, left)
    | c :: _ =>
      if c = 'e' ∨ c = 'E' then
        let (exponent, left) ← readExponent? rest
        let j ← signedDecimal? negative (Decimal.ofDigits 0 whole) exponent
        some (j, left)
      else wholeNumber whole rest
    | [] => wholeNumber whole []
where
  wholeNumber (digits rest : List Char) : Option (Json × List Char) := do
    let n : Int := Decimal.ofDigits 0 digits
    some (← int64? (if negative then -n else n), rest)

def readNumber? : List Char → Option (Json × List Char)
  | '+' :: rest => readUnsigned? false rest
  | '-' :: rest => readUnsigned? true rest
  | '0' :: 'x' :: rest => readBased? 16 rest
  | '0' :: 'o' :: rest => readBased? 8 rest
  | '0' :: 'b' :: rest => readBased? 2 rest
  | cs => readUnsigned? false cs

/-! ## Dates and times -/

/-- Two digits up to a bound. -/
def readPair? (low high : Nat) : List Char → Option (Nat × List Char)
  | a :: b :: rest =>
    if a.isDigit && b.isDigit then
      let n := Decimal.ofDigits 0 [a, b]
      if low ≤ n ∧ n ≤ high then some (n, rest) else none
    else none
  | _ => none

def twoDigits (n : Nat) : List Char :=
  if n < 10 then '0' :: Nat.toDigits 10 n else Nat.toDigits 10 n

/-- A date after its year and the first hyphen; the day has to be in the month. -/
def readDate? (year : List Char) (cs : List Char) : Option (List Char × List Char) := do
  let (month, rest) ← readPair? 1 12 cs
  match rest with
  | '-' :: rest =>
    let (day, left) ← readPair? 1 (daysInMonth (Decimal.ofDigits 0 year) month) rest
    some (year ++ '-' :: twoDigits month ++ '-' :: twoDigits day, left)
  | _ => none

/-- The fraction of a second: nine digits at most count, and zeros at its end are left out. -/
def fractionText (digits : List Char) : List Char :=
  let kept := ((digits.take 9).reverse.dropWhile (· = '0')).reverse
  if kept = [] then [] else '.' :: kept

/-- A time after its hour and the first colon. -/
def readTime? (hour : Nat) (cs : List Char) : Option (List Char × List Char) := do
  let (minute, rest) ← readPair? 0 59 cs
  match rest with
  | ':' :: rest =>
    let (second, rest) ← readPair? 0 60 rest
    let text := twoDigits hour ++ ':' :: twoDigits minute ++ ':' :: twoDigits second
    match rest with
    | '.' :: rest =>
      let digits := rest.takeWhile Char.isDigit
      if digits = [] then none
      else some (text ++ fractionText digits, rest.dropWhile Char.isDigit)
    | rest => some (text, rest)
  | _ => none

/-- The offset behind a time, if there is one; `none` if it is malformed. -/
def readOffset? : List Char → Option (List Char × List Char)
  | c :: rest =>
    if c = 'Z' ∨ c = 'z' then some (['Z'], rest)
    else if c = '+' ∨ c = '-' then do
      let (hour, rest) ← readPair? 0 23 rest
      match rest with
      | ':' :: rest =>
        let (minute, left) ← readPair? 0 59 rest
        let sign := if hour = 0 ∧ minute = 0 then '+' else c
        some (sign :: twoDigits hour ++ ':' :: twoDigits minute, left)
      | _ => none
    else some ([], c :: rest)
  | [] => some ([], [])

/-- What separates a date from its time. -/
def isTimeMark (c : Char) : Bool := c = 'T' || c = 't' || c = ' '

/-- A time and its offset behind a date, if a time is there. -/
def readDayTime? (date : List Char) : List Char → Option (List Char × List Char)
  | mark :: a :: b :: ':' :: rest =>
    if isTimeMark mark && a.isDigit && b.isDigit then do
      let (hour, _) ← readPair? 0 23 [a, b]
      let (time, rest) ← readTime? hour rest
      let (offset, left) ← readOffset? rest
      some (date ++ 'T' :: time ++ offset, left)
    else some (date, mark :: a :: b :: ':' :: rest)
  | cs => some (date, cs)

/-- Whether a value begins like a date or a time. -/
def startsMoment : List Char → Bool
  | a :: b :: c :: rest =>
    a.isDigit && b.isDigit &&
      (c = ':' || (c.isDigit && match rest with | d :: e :: _ => d.isDigit && e = '-' | _ => false))
  | _ => false

/-- A date, a time, or both, as the text that is made of it. -/
def readMoment? : List Char → Option (String × List Char)
  | a :: b :: ':' :: rest => do
    let (hour, _) ← readPair? 0 23 [a, b]
    let (time, left) ← readTime? hour rest
    some (String.ofList time, left)
  | a :: b :: c :: d :: '-' :: rest => do
    let (date, rest) ← readDate? [a, b, c, d] rest
    let (text, left) ← readDayTime? date rest
    some (String.ofList text, left)
  | _ => none

end CatalogSync.Toml
