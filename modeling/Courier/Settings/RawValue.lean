import Courier.Number.Shortest
import Courier.Text.Quoted
import Courier.Toml.Document

/-!
# Raw values of settings

A setting is first known as a value of some kind, before it is known whether that kind suits it.
Of sequences and maps only the kind matters, as no setting has one.
-/

namespace Courier

/-- A value that a source gives for a setting. -/
inductive RawValue where
  | text (s : String)
  | unsigned (n : Nat)
  | signed (i : Int)
  | float (x : Binary64)
  | bool (b : Bool)
  | sequence
  | map
  deriving DecidableEq

namespace RawValue

/-- Floating point numbers in messages have no exponent and no needless point. -/
def floatLayout : Binary64.Layout := ⟨none, false⟩

def describe : RawValue → String
  | text s => "string " ++ Text.quoted s
  | unsigned n => "unsigned int `" ++ Text.Decimal.ofInt n ++ "`"
  | signed i => "signed int `" ++ Text.Decimal.ofInt i ++ "`"
  | float x => "float `" ++ floatLayout.text x ++ "`"
  | bool b => if b then "bool true" else "bool false"
  | sequence => "sequence"
  | map => "map"

def ofItem : Toml.Item → RawValue
  | .string s => text s
  | .integer i => signed i
  | .float x => float x
  | .bool b => bool b
  | .array _ | .tables _ => sequence
  | .dateTime | .inlineTable _ | .table _ _ _ => map

def integer? : RawValue → Option Int
  | unsigned n => some n
  | signed i => some i
  | _ => none

end RawValue

end Courier
