import Courier.Text.Hex
import Courier.Text.Utf8

/-!
# Percent encoding

Bytes that a part of a URL cannot hold are written as `%` and two hexadecimal digits. Which
characters are written in this way depends on the part.
-/

namespace Courier.Url.Percent

open Text

/-- Controls, and everything beyond ASCII. -/
def inControls (c : Char) : Bool := c.toNat < 32 || 126 < c.toNat

/-- What a query may not hold; a query of a web address may not hold an apostrophe either. -/
def inQuery (isSpecial : Bool) (c : Char) : Bool :=
  inControls c || c = ' ' || c = '"' || c = '#' || c = '<' || c = '>' ||
    (isSpecial && c.toNat = 39)

def inPath (c : Char) : Bool :=
  inControls c || c = ' ' || c = '"' || c = '#' || c = '<' || c = '>' || c = '?' ||
    c.toNat = 96 || c = '\x7b' || c = '\x7d'

def inUserinfo (c : Char) : Bool :=
  inPath c || c = '/' || c = ':' || c = ';' || c = '=' || c = '@' || c = '[' || c = '\\' ||
    c = ']' || c = '^' || c = '|'

def encodeByte (b : UInt8) : List Char :=
  ['%', Hex.upperDigitChar (b.toNat / 16), Hex.upperDigitChar (b.toNat % 16)]

def encode (set : Char → Bool) (s : List Char) : List Char :=
  s.flatMap fun c =>
    if set c then (Utf8.encode (String.ofList [c])).flatMap encodeByte else [c]

/-- The bytes that encoded bytes stand for; a `%` without two digits stands for itself. -/
def decode : List UInt8 → List UInt8
  | [] => []
  | 37 :: a :: b :: rest =>
    match Hex.digitValue? (Char.ofNat a.toNat), Hex.digitValue? (Char.ofNat b.toNat) with
    | some x, some y => UInt8.ofNat (x * 16 + y) :: decode rest
    | _, _ => 37 :: decode (a :: b :: rest)
  | b :: rest => b :: decode rest

/-- The text that an encoded text stands for, read as lossy UTF-8. -/
def decodeText (s : List Char) : String := Utf8.decode (decode (Utf8.encode (String.ofList s)))

end Courier.Url.Percent
