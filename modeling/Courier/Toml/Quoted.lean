import Courier.Text.Hex

/-!
# Quoted text in TOML

Strings between quotation marks know escapes, strings between apostrophes do not. Three marks begin
a string that may span lines.
-/

namespace Courier.Toml

/-- The mark of strings without escapes. -/
def apostrophe : Char := Char.ofNat 39

def isSpace (c : Char) : Bool := c = ' ' || c = '\t'

/-- A character that may stand for itself: a tab, or no control character. -/
def isPlain (c : Char) : Bool := c = '\t' || (32 ≤ c.toNat && c.toNat ≠ 127)

def newline? : List Char → Option (List Char)
  | '\n' :: rest => some rest
  | '\r' :: '\n' :: rest => some rest
  | _ => none

def unescape? (c : Char) : Option Char :=
  if c = '"' ∨ c = '\\' then some c
  else if c = 'b' then some '\x08'
  else if c = 't' then some '\t'
  else if c = 'n' then some '\n'
  else if c = 'f' then some '\x0c'
  else if c = 'r' then some '\r'
  else none

def codePoint? (digits : List Char) : Option Char :=
  (Text.Hex.value? digits).bind fun n =>
    if n < 0xD800 ∨ (0xE000 ≤ n ∧ n < 0x110000) then some (Char.ofNat n) else none

def prepend (c : Char) (r : Option (List Char × List Char)) : Option (List Char × List Char) :=
  r.map fun (s, rest) => (c :: s, rest)

/-- Reads a string up to its closing quotation mark. The characters that `allows` holds of may stand
for themselves. -/
def readEscaped (allows : Char → Bool) : List Char → Option (List Char × List Char)
  | [] => none
  | '"' :: rest => some ([], rest)
  | '\\' :: 'u' :: a :: b :: c :: d :: rest =>
    (codePoint? [a, b, c, d]).bind fun x => prepend x (readEscaped allows rest)
  | '\\' :: 'U' :: a :: b :: c :: d :: e :: f :: g :: h :: rest =>
    (codePoint? [a, b, c, d, e, f, g, h]).bind fun x => prepend x (readEscaped allows rest)
  | '\\' :: c :: rest => (unescape? c).bind fun x => prepend x (readEscaped allows rest)
  | c :: rest => if allows c ∧ c ≠ '\\' then prepend c (readEscaped allows rest) else none

def readLiteral : List Char → Option (List Char × List Char)
  | [] => none
  | c :: rest =>
    if c = apostrophe then some ([], rest)
    else if isPlain c then prepend c (readLiteral rest)
    else none

def marks (q : Char) (s : List Char) : Nat := (s.takeWhile (· = q)).length

/-- What follows the end of a string of several lines: three marks, and up to two more that belong
to the string. -/
def close? (q : Char) (s : List Char) : Option (List Char × List Char) :=
  let n := min (marks q s) 5
  if 3 ≤ n then some (List.replicate (n - 3) q, s.drop n) else none

/-- Nothing but blanks stands before the line end. -/
def endsLine (s : List Char) : Bool := (newline? (s.dropWhile isSpace)).isSome

/-- Reads a string of several lines. After a backslash at the end of a line everything is skipped up
to the next character that is neither blank nor line end. -/
def readLines (skips : Bool) : List Char → Option (List Char × List Char)
  | [] => none
  | '\r' :: '\n' :: rest =>
    if skips then readLines true rest else prepend '\n' (readLines false rest)
  | '\n' :: rest => if skips then readLines true rest else prepend '\n' (readLines false rest)
  | '\\' :: 'u' :: a :: b :: c :: d :: rest =>
    (codePoint? [a, b, c, d]).bind fun x => prepend x (readLines false rest)
  | '\\' :: 'U' :: a :: b :: c :: d :: e :: f :: g :: h :: rest =>
    (codePoint? [a, b, c, d, e, f, g, h]).bind fun x => prepend x (readLines false rest)
  | '\\' :: c :: rest =>
    if endsLine (c :: rest) then readLines true (c :: rest)
    else (unescape? c).bind fun x => prepend x (readLines false rest)
  | c :: rest =>
    if skips && isSpace c then readLines true rest
    else
      match close? '"' (c :: rest) with
      | some r => some r
      | none =>
        if isPlain c ∧ c ≠ '\\' then prepend c (readLines false rest) else none

def readLiteralLines : List Char → Option (List Char × List Char)
  | [] => none
  | '\r' :: '\n' :: rest => prepend '\n' (readLiteralLines rest)
  | '\n' :: rest => prepend '\n' (readLiteralLines rest)
  | c :: rest =>
    match close? apostrophe (c :: rest) with
    | some r => some r
    | none => if isPlain c then prepend c (readLiteralLines rest) else none

/-- The text without the line end that directly follows the opening marks. -/
def afterOpening (s : List Char) : List Char := (newline? s).getD s

def readString (s : List Char) : Option (List Char × List Char) :=
  if 3 ≤ marks '"' s then readLines false (afterOpening (s.drop 3))
  else if 3 ≤ marks apostrophe s then readLiteralLines (afterOpening (s.drop 3))
  else if s.head? = some '"' then readEscaped isPlain (s.drop 1)
  else if s.head? = some apostrophe then readLiteral (s.drop 1)
  else none

end Courier.Toml
