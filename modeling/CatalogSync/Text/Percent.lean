import CatalogSync.Text.Hexadecimal

/-!
# Percent-encoded text

A percent sign and two hexadecimal digits stand for a byte. A percent sign with anything else behind
it stands for itself.
-/

namespace CatalogSync.Text.Percent

/-- The bytes that a text stands for. -/
def bytes : List Char → List UInt8
  | [] => []
  | '%' :: a :: b :: rest =>
    match Hexadecimal.byte? a b with
    | some byte => byte :: bytes rest
    | none => '%'.toNat.toUInt8 :: bytes (a :: b :: rest)
  | c :: rest => String.utf8EncodeChar c ++ bytes rest
termination_by cs => cs.length

/-- The text that a text stands for, if its bytes are one. -/
def decode? (cs : List Char) : Option String := String.fromUTF8? ⟨(bytes cs).toArray⟩

/-- One character as the encoded bytes of its UTF-8 form. -/
def encodeChar (c : Char) : List Char :=
  (String.utf8EncodeChar c).flatMap fun b =>
    ['%', (Hexadecimal.digit (b.toNat / 16)).toUpper, (Hexadecimal.digit b.toNat).toUpper]

/-- A text with the reserved characters encoded. -/
def encode (reserved : Char → Bool) (cs : List Char) : List Char :=
  cs.flatMap fun c => if reserved c then encodeChar c else [c]

end CatalogSync.Text.Percent
