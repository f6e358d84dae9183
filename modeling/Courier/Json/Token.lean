import Courier.Json.Value

/-!
# JSON tokens

A text is cut into punctuation, words, numbers and strings, up to the first place where none of
them stands. White space between tokens is dropped.
-/

namespace Courier.Json

inductive Token where
  | openBrace | closeBrace | openBracket | closeBracket | comma | colon
  | null
  | bool (b : Bool)
  /-- No number if the literal is too large for any. -/
  | number (n : Option Number)
  /-- No text if an escape names half of a surrogate pair. -/
  | string (s : Option String)
  /-- Characters that form no token. -/
  | fault
  deriving DecidableEq

def isSpace (c : Char) : Bool := c = ' ' || c = '\n' || c = '\t' || c = '\r'

/-! ### Strings -/

/-- A piece of a string: a character, or a unit of UTF-16 that an escape names. -/
inductive Piece where
  | char (c : Char)
  | unit (n : Nat)

def unescape? (c : Char) : Option Char :=
  if c = '"' ∨ c = '\\' ∨ c = '/' then some c
  else if c = 'b' then some '\x08'
  else if c = 'f' then some '\x0c'
  else if c = 'n' then some '\n'
  else if c = 'r' then some '\r'
  else if c = 't' then some '\t'
  else none

/-- The pieces of a string up to its closing quote, and what follows; none if the string is not
well formed. -/
def scanString : List Char → Option (List Piece × List Char)
  | [] => none
  | '"' :: rest => some ([], rest)
  | '\\' :: 'u' :: a :: b :: c :: d :: rest =>
    match Text.Hex.value? [a, b, c, d] with
    | some n => (scanString rest).map fun (ps, r) => (.unit n :: ps, r)
    | none => none
  | '\\' :: c :: rest =>
    match unescape? c with
    | some c => (scanString rest).map fun (ps, r) => (.char c :: ps, r)
    | none => none
  | c :: rest =>
    if c.toNat < 32 ∨ c = '\\' then none
    else (scanString rest).map fun (ps, r) => (.char c :: ps, r)

def isHighSurrogate (n : Nat) : Bool := 0xD800 ≤ n && n < 0xDC00

def isLowSurrogate (n : Nat) : Bool := 0xDC00 ≤ n && n < 0xE000

/-- The characters of the pieces, if every surrogate has its other half next to it. -/
def joinPieces : List Piece → Option (List Char)
  | [] => some []
  | .char c :: ps => (joinPieces ps).map (c :: ·)
  | .unit h :: .unit l :: ps =>
    if isHighSurrogate h then
      if isLowSurrogate l then
        (joinPieces ps).map
          (Char.ofNat (0x10000 + (h - 0xD800) * 0x400 + (l - 0xDC00)) :: ·)
      else none
    else if isLowSurrogate h then none
    else (joinPieces (.unit l :: ps)).map (Char.ofNat h :: ·)
  | .unit n :: ps =>
    if isHighSurrogate n || isLowSurrogate n then none else (joinPieces ps).map (Char.ofNat n :: ·)

/-! ### Numbers -/

def scanExponent (s : List Char) : Option (Int × List Char) :=
  match s with
  | '+' :: r => (Text.Decimal.read none r).map fun (n, r) => ((n : Int), r)
  | '-' :: r => (Text.Decimal.read none r).map fun (n, r) => (-(n : Int), r)
  | r => (Text.Decimal.read none r).map fun (n, r) => ((n : Int), r)

def scanNumber (isNegative : Bool) (s : List Char) : Option (Option Number × List Char) :=
  let whole := s.takeWhile Text.Decimal.isDigit
  let rest := s.dropWhile Text.Decimal.isDigit
  if whole = [] ∨ (whole.head? = some '0' ∧ 1 < whole.length) then none
  else
    let (fraction, rest, isReal, ok) :=
      match rest with
      | '.' :: r =>
        let ds := r.takeWhile Text.Decimal.isDigit
        (ds, r.dropWhile Text.Decimal.isDigit, true, !ds.isEmpty)
      | r => ([], r, false, true)
    if !ok then none
    else
      match rest with
      | 'e' :: r | 'E' :: r =>
        (scanExponent r).map fun (e, r) => (Number.ofParts isNegative whole fraction e, r)
      | r =>
        if isReal then some (Number.ofParts isNegative whole fraction 0, r)
        else some (Number.ofInteger isNegative whole, r)

/-! ### Tokens -/

/-- The first token of a text that does not start with white space, and what follows it. -/
def scan (s : List Char) : Token × List Char :=
  match s with
  | '\x7b' :: r => (.openBrace, r)
  | '\x7d' :: r => (.closeBrace, r)
  | '[' :: r => (.openBracket, r)
  | ']' :: r => (.closeBracket, r)
  | ',' :: r => (.comma, r)
  | ':' :: r => (.colon, r)
  | 'n' :: 'u' :: 'l' :: 'l' :: r => (.null, r)
  | 't' :: 'r' :: 'u' :: 'e' :: r => (.bool true, r)
  | 'f' :: 'a' :: 'l' :: 's' :: 'e' :: r => (.bool false, r)
  | '"' :: r =>
    match scanString r with
    | some (ps, r) => (.string ((joinPieces ps).map String.ofList), r)
    | none => (.fault, [])
  | '-' :: r =>
    match scanNumber true r with
    | some (n, r) => (.number n, r)
    | none => (.fault, [])
  | r =>
    match scanNumber false r with
    | some (n, r) => (.number n, r)
    | none => (.fault, [])

/-- The tokens of a text, up to and including the first fault. -/
def tokens (s : List Char) : List Token :=
  match s with
  | [] => []
  | c :: r =>
    if isSpace c then tokens r
    else
      let t := scan (c :: r)
      if _h : t.2.length < (c :: r).length then t.1 :: tokens t.2 else [.fault]
termination_by s.length
decreasing_by
  · exact Nat.lt_succ_self _
  · exact _h

end Courier.Json
