import Courier.Text.Hex

/-!
# UUIDs

128-bit identifiers. They are written in lower case with hyphens after 8, 12, 16 and 20 digits, and
also read without hyphens, in braces and as a URN.
-/

namespace Courier

structure Uuid where
  number : Nat
  number_lt : number < 2 ^ 128
  deriving DecidableEq

namespace Uuid

def nil : Uuid := ⟨0, by decide⟩

instance : Inhabited Uuid := ⟨nil⟩

@[ext] theorem ext {a b : Uuid} (h : a.number = b.number) : a = b := by
  cases a; cases b; cases h; rfl

def ofNumber (n : Nat) : Uuid := ⟨n % 2 ^ 128, Nat.mod_lt _ (by decide)⟩

instance : LT Uuid := ⟨fun a b => a.number < b.number⟩

instance : DecidableLT Uuid := fun a b => inferInstanceAs (Decidable (a.number < b.number))

/-- 32 digits with a hyphen between their five groups. -/
def hyphenate (s : List Char) : List Char :=
  s.take 8 ++ '-' :: ((s.drop 8).take 4 ++ '-' :: ((s.drop 12).take 4 ++
    '-' :: ((s.drop 16).take 4 ++ '-' :: s.drop 20)))

def text (u : Uuid) : String := String.ofList (hyphenate (Text.Hex.digits 32 u.number))

instance : ToString Uuid := ⟨text⟩

/-- The digits of a text that has hyphens exactly between the five groups. -/
def unhyphenate? (s : List Char) : Option (List Char) :=
  let bare := s.filter (· ≠ '-')
  if bare.length = 32 ∧ hyphenate bare = s then some bare else none

/-- The digits that a text in any of the accepted forms holds. -/
def digitsOf? (s : List Char) : Option (List Char) :=
  if s.length = 32 then some s
  else if s.length = 36 then unhyphenate? s
  else if s.length = 38 then
    if s.head? = some '{' ∧ s.getLast? = some '}' then unhyphenate? ((s.drop 1).take 36) else none
  else if s.length = 45 then
    if String.ofList ((s.take 9).map Char.toLower) = "urn:uuid:" then unhyphenate? (s.drop 9)
    else none
  else none

def parse? (s : List Char) : Option Uuid :=
  (digitsOf? s).bind fun ds =>
    (Text.Hex.value? ds).bind fun n => if h : n < 2 ^ 128 then some ⟨n, h⟩ else none

end Uuid

end Courier
