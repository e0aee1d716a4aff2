/-!
# Reading bytes as text

Bytes that are not UTF-8 still have a text: every maximal part that begins a character and does
not end it is shown as one replacement character.
-/

namespace CatalogSync.Text.Utf8

/-- The range of the second byte of a character that begins with a byte. Outside it the character
would be too long for its number, a surrogate, or beyond the last code point. -/
def secondRange (first : Nat) : Nat × Nat :=
  if first = 0xe0 then (0xa0, 0xbf)
  else if first = 0xed then (0x80, 0x9f)
  else if first = 0xf0 then (0x90, 0xbf)
  else if first = 0xf4 then (0x80, 0x8f)
  else (0x80, 0xbf)

/-- How many bytes follow a byte that begins a character; `none` for one that begins none. -/
def following? (first : Nat) : Option Nat :=
  if first < 0x80 then some 0
  else if 0xc2 ≤ first ∧ first ≤ 0xdf then some 1
  else if 0xe0 ≤ first ∧ first ≤ 0xef then some 2
  else if 0xf0 ≤ first ∧ first ≤ 0xf4 then some 3
  else none

/-- The bits of a first byte that belong to the code point. -/
def leadBits (first following : Nat) : Nat :=
  if following = 0 then first else first % Nat.pow 2 (6 - following)

/-- Read the bytes that have to follow: the code point, or `none` at the first byte that does not
fit, and what is left. -/
def readRest (range : Nat × Nat) (point : Nat) :
    (missing : Nat) → List UInt8 → Option Nat × List UInt8
  | 0, rest => (some point, rest)
  | _ + 1, [] => (none, [])
  | missing + 1, b :: rest =>
    if range.1 ≤ b.toNat ∧ b.toNat ≤ range.2 then
      readRest (0x80, 0xbf) (point * 64 + b.toNat % 64) missing rest
    else (none, b :: rest)

/-- The characters of bytes, in at most `fuel` steps. -/
def lossyChars : (fuel : Nat) → List UInt8 → List Char
  | 0, _ => []
  | _, [] => []
  | fuel + 1, b :: rest =>
    match following? b.toNat with
    | none => '\ufffd' :: lossyChars fuel rest
    | some n =>
      let (point, left) := readRest (secondRange b.toNat) (leadBits b.toNat n) n rest
      (point.map Char.ofNat).getD '\ufffd' :: lossyChars fuel left

/-- The text of bytes. -/
def lossy (bytes : ByteArray) : String := String.ofList (lossyChars bytes.size bytes.toList)

end CatalogSync.Text.Utf8
