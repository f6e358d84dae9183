import Courier.Text.CharSet
import Courier.Text.Decimal

/-!
# Numeric addresses

Addresses of 32 bits, whose parts may be written in octal, decimal or hexadecimal and may be joined,
and addresses of 128 bits, whose longest run of zeros is left out when they are written.
-/

namespace Courier.Url

open Text

namespace Ipv4

/-- The value of digits in the base that their start shows; none if they form no number. -/
def number? (s : List Char) : Option Nat :=
  match s with
  | [] => none
  | '0' :: 'x' :: ds => Hex.value? ds
  | '0' :: 'X' :: ds => Hex.value? ds
  | '0' :: d :: ds =>
    if (d :: ds).all fun c => '0' ≤ c && c ≤ '7' then
      some ((d :: ds).foldl (fun n c => n * 8 + Decimal.digitValue c) 0)
    else none
  | ds => if ds.all Decimal.isDigit then some (Decimal.value ds) else none

/-- The parts of a dotted text; a point at its end is dropped. -/
def parts (s : List Char) : List (List Char) :=
  let ps := splitAt '.' s
  if ps.getLast? = some [] then ps.dropLast else ps

/-- The text is to be read as an address: its last part is a number. -/
def endsInNumber (s : List Char) : Bool :=
  match (parts s).getLast? with
  | none => false
  | some p => (!p.isEmpty && p.all Decimal.isDigit) || (number? p).isSome

/-- The address of up to four parts, the last of which fills what the others leave. -/
def parse? (s : List Char) : Option Nat := do
  let ps := parts s
  if 4 < ps.length then none
  let ns ← ps.mapM number?
  let final ← ns.getLast?
  let leading := ns.dropLast
  if 256 ^ (4 - leading.length) ≤ final ∨ leading.any (255 < ·) then none
  else some (leading.foldl (fun a n => a * 256 + n) 0 * 256 ^ (4 - leading.length) + final)

def text (a : Nat) : List Char :=
  ['.'].intercalate
    ([a / 256 ^ 3 % 256, a / 256 ^ 2 % 256, a / 256 % 256, a % 256].map Decimal.digits)

/-- Four decimal parts without leading zeros, as two groups of 16 bits. -/
def groups? (s : List Char) : Option (List Nat) := do
  let ns ← (splitAt '.' s).mapM fun p =>
    if p.all Decimal.isDigit && Decimal.digits (Decimal.value p) = p && Decimal.value p < 256 then
      some (Decimal.value p)
    else none
  match ns with
  | [a, b, c, d] => some [a * 256 + b, c * 256 + d]
  | _ => none

end Ipv4

namespace Ipv6

def group? (s : List Char) : Option Nat :=
  if 1 ≤ s.length ∧ s.length ≤ 4 then Hex.value? s else none

/-- Groups with colons between them; the last two may be written as four decimal parts. -/
def groups? (s : List Char) : Option (List Nat) := do
  let ps := splitAt ':' s
  let final ← ps.getLast?
  let leading ← ps.dropLast.mapM group?
  match group? final with
  | some g => some (leading ++ [g])
  | none => (Ipv4.groups? final).map (leading ++ ·)

def cut? : List Char → Option (List Char × List Char)
  | ':' :: ':' :: rest => some ([], rest)
  | c :: rest => (cut? rest).map fun (a, b) => (c :: a, b)
  | [] => none

/-- The eight groups of an address. A double colon stands for one zero group or more. -/
def parse? (s : List Char) : Option (List Nat) :=
  match cut? s with
  | none => (groups? s).filter (·.length = 8)
  | some (a, b) => do
    let left ← if a.isEmpty then some [] else (splitAt ':' a).mapM group?
    let right ← if b.isEmpty then some [] else groups? b
    if left.length + right.length ≤ 7 then
      some (left ++ List.replicate (8 - left.length - right.length) 0 ++ right)
    else none

def zeros (gs : List Nat) : Nat := (gs.takeWhile (· = 0)).length

/-- The place and length of the first longest run of zeros. -/
def longestZeros (at' : Nat) : List Nat → Nat × Nat
  | [] => (at', 0)
  | g :: gs =>
    let rest := longestZeros (at' + 1) gs
    let here := zeros (g :: gs)
    if rest.2 ≤ here then (at', here) else rest

def groupsText (gs : List Nat) : List Char := [':'].intercalate (gs.map Hex.minimal)

/-- The address with its longest run of two zero groups or more left out. -/
def text (gs : List Nat) : List Char :=
  let (start, length) := longestZeros 0 gs
  if 2 ≤ length then
    groupsText (gs.take start) ++ ':' :: ':' :: groupsText (gs.drop (start + length))
  else groupsText gs

end Ipv6

end Courier.Url
