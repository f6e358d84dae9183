import Courier.Text.Hex

/-!
# Tables of characters

Sets of code points and maps on them, given as texts: `41-5A` is a range, `41-5A:61` maps a range
to consecutive code points, `100-12E/:101` maps every second one, and `B2-B3=:32,33` maps each to
the same sequence.
-/

namespace Courier.Text

/-- A range of code points and what it is mapped to. -/
structure CharRange where
  least : Nat
  greatest : Nat
  step : Nat
  /-- Every member has the same image. -/
  constant : Bool
  image : List Nat
  deriving Inhabited

abbrev CharRanges := Array CharRange

namespace CharRanges

/-- The last range among those at `low` up to, not including, `high` that does not start after
`n`. -/
def find? (t : CharRanges) (n low high : Nat) : Option CharRange :=
  if _h : low < high then
    let middle := (low + high) / 2
    match t[middle]? with
    | some r =>
      if n < r.least then find? t n low middle
      else if n ≤ r.greatest then some r
      else find? t n (middle + 1) high
    | none => none
  else none
termination_by high - low

/-- The range that holds `n`. -/
def lookup (t : CharRanges) (n : Nat) : Option CharRange :=
  (t.find? n 0 t.size).filter fun r => (n - r.least) % r.step == 0

end CharRanges

def hexValue (s : List Char) : Nat := (Hex.value? s).getD 0

def splitAt (c : Char) : List Char → List (List Char)
  | [] => [[]]
  | d :: rest =>
    if d = c then [] :: splitAt c rest
    else
      match splitAt c rest with
      | w :: ws => (d :: w) :: ws
      | [] => [[d]]

/-- Reads one range with its image. -/
def CharRange.ofWord (w : List Char) : CharRange :=
  let (key, image) := match splitAt ':' w with
    | [k, i] => (k, (splitAt ',' i).map hexValue)
    | _ => (w, [])
  let alternate := key.contains '/'
  let constant := key.contains '='
  match splitAt '-' (key.filter fun c => c ≠ '/' ∧ c ≠ '=') with
  | [a, b] => ⟨hexValue a, hexValue b, if alternate then 2 else 1, constant, image⟩
  | _ =>
    let n := hexValue (key.filter fun c => c ≠ '/' ∧ c ≠ '=')
    ⟨n, n, 1, constant, image⟩

def CharRanges.ofText (s : String) : CharRanges :=
  ((splitAt ' ' s.toList).map CharRange.ofWord).toArray

structure CharSet where
  ranges : CharRanges

def CharSet.ofText (s : String) : CharSet := ⟨.ofText s⟩

def CharSet.contains (s : CharSet) (c : Char) : Bool := (s.ranges.lookup c.toNat).isSome

structure CharMap where
  ranges : CharRanges

def CharMap.ofText (s : String) : CharMap := ⟨.ofText s⟩

def CharMap.get? (m : CharMap) (c : Char) : Option (List Nat) :=
  (m.ranges.lookup c.toNat).map fun r =>
    match r.image with
    | [first] => if r.constant then [first] else [first + (c.toNat - r.least)]
    | image => image

end Courier.Text
