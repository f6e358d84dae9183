import Courier.Data.Dict
import Courier.Json.Number
import Courier.Text.Hex

/-!
# JSON values and their text

JSON values, and the text of a value without any white space. Objects keep their members in the
order given.
-/

namespace Courier

inductive Json where
  | null
  | bool (b : Bool)
  | number (n : Json.Number)
  | string (s : String)
  | array (items : List Json)
  | object (members : List (String × Json))

namespace Json

instance : Inhabited Json := ⟨null⟩

/-! ### Equality -/

mutual

def same : Json → Json → Bool
  | null, null => true
  | bool a, bool b => a = b
  | number a, number b => a = b
  | string a, string b => a = b
  | array a, array b => sameItems a b
  | object a, object b => sameMembers a b
  | _, _ => false

def sameItems : List Json → List Json → Bool
  | [], [] => true
  | a :: as, b :: bs => same a b && sameItems as bs
  | _, _ => false

def sameMembers : List (String × Json) → List (String × Json) → Bool
  | [], [] => true
  | (k, a) :: as, (l, b) :: bs => k = l && same a b && sameMembers as bs
  | _, _ => false

end

mutual

theorem eq_of_same : ∀ {a b : Json}, same a b = true → a = b
  | null, b, h => by cases b <;> simp_all [same]
  | bool _, b, h => by cases b <;> simp_all [same]
  | number _, b, h => by cases b <;> simp_all [same]
  | string _, b, h => by cases b <;> simp_all [same]
  | array a, b, h => by
    cases b <;> simp_all [same]
    exact eq_of_sameItems h
  | object a, b, h => by
    cases b <;> simp_all [same]
    exact eq_of_sameMembers h

theorem eq_of_sameItems : ∀ {a b : List Json}, sameItems a b = true → a = b
  | [], b, h => by cases b <;> simp_all [sameItems]
  | a :: as, b, h => by
    cases b <;> simp_all [sameItems]
    exact ⟨eq_of_same h.1, eq_of_sameItems h.2⟩

theorem eq_of_sameMembers : ∀ {a b : List (String × Json)}, sameMembers a b = true → a = b
  | [], b, h => by cases b <;> simp_all [sameMembers]
  | (k, a) :: as, b, h => by
    cases b <;> simp_all [sameMembers]
    rename_i head tail
    obtain ⟨l, b⟩ := head
    exact ⟨Prod.ext rfl (eq_of_same h.1.2), eq_of_sameMembers h.2⟩

end

mutual

theorem same_refl : ∀ a : Json, same a a = true
  | null | bool _ | number _ | string _ => by simp [same]
  | array a => by rw [same]; exact sameItems_refl a
  | object a => by rw [same]; exact sameMembers_refl a

theorem sameItems_refl : ∀ a : List Json, sameItems a a = true
  | [] => by rw [sameItems]
  | a :: as => by rw [sameItems, same_refl a, sameItems_refl as]; rfl

theorem sameMembers_refl : ∀ a : List (String × Json), sameMembers a a = true
  | [] => by rw [sameMembers]
  | (k, a) :: as => by rw [sameMembers, same_refl a, sameMembers_refl as]; simp

end

instance : DecidableEq Json := fun a b =>
  decidable_of_iff (same a b = true) ⟨eq_of_same, fun h => h ▸ same_refl a⟩

/-! ### Construction -/

def nat (n : Nat) : Json := number (.nat (UInt64.ofNat n))

def int (i : Int) : Json :=
  if i < 0 then number (.negative (Int64.ofInt i)) else number (.nat (UInt64.ofNat i.toNat))

def option {α : Type} (f : α → Json) : Option α → Json
  | some a => f a
  | none => null

def texts (d : Dict String) : Json := object (d.entries.map fun (k, v) => (k, string v))

def dict (d : Dict Json) : Json := object d.entries

/-! ### Text -/

def escape (c : Char) : List Char :=
  if c = '"' then ['\\', '"']
  else if c = '\\' then ['\\', '\\']
  else if c.toNat = 8 then ['\\', 'b']
  else if c.toNat = 9 then ['\\', 't']
  else if c.toNat = 10 then ['\\', 'n']
  else if c.toNat = 12 then ['\\', 'f']
  else if c.toNat = 13 then ['\\', 'r']
  else if c.toNat < 32 then '\\' :: 'u' :: Text.Hex.digits 4 c.toNat
  else [c]

def quote (s : String) : List Char := '"' :: (s.toList.flatMap escape ++ ['"'])

mutual

def render (v : Json) (rest : List Char) : List Char :=
  match v with
  | null => 'n' :: 'u' :: 'l' :: 'l' :: rest
  | bool true => 't' :: 'r' :: 'u' :: 'e' :: rest
  | bool false => 'f' :: 'a' :: 'l' :: 's' :: 'e' :: rest
  | number n => n.text ++ rest
  | string s => quote s ++ rest
  | array items => '[' :: renderItems true items (']' :: rest)
  | object members => '\x7b' :: renderMembers true members ('\x7d' :: rest)

def renderItems (isFirst : Bool) (items : List Json) (rest : List Char) : List Char :=
  match items with
  | [] => rest
  | v :: vs =>
    let tail := render v (renderItems false vs rest)
    if isFirst then tail else ',' :: tail

def renderMembers (isFirst : Bool) (members : List (String × Json)) (rest : List Char) :
    List Char :=
  match members with
  | [] => rest
  | (k, v) :: vs =>
    let tail := quote k ++ ':' :: render v (renderMembers false vs rest)
    if isFirst then tail else ',' :: tail

end

def text (v : Json) : String := String.ofList (v.render [])

end Json

end Courier
