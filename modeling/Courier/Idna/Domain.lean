import Courier.Idna.ClassTable
import Courier.Idna.MappingTable
import Courier.Idna.Punycode
import Courier.Text.Normal

/-!
# Domain names

A domain name in any script is brought to its form in ASCII: characters are mapped to their common
form, each label is checked, and labels beyond ASCII are encoded. What is no domain name has no
such form.
-/

namespace Courier.Idna

open Text

/-- Characters of ASCII that no host may hold. -/
def isDenied (c : Char) : Bool :=
  c.toNat ≤ 32 || c.toNat = 127 || "%#/:<>?@[\\]^|".toList.contains c

/-- The common form of a character; none if it is disallowed. -/
def mapChar (c : Char) : Option (List Char) :=
  if c.toNat < 128 then some [c.toLower]
  else if MappingTable.ignored.contains c then some []
  else
    match MappingTable.mapped.get? c with
    | some image => some (image.map Char.ofNat)
    | none => if MappingTable.disallowed.contains c then none else some [c]

def isValid (c : Char) : Bool := mapChar c == some [c]

def labels (s : List Char) : List (List Char) := Text.splitAt '.' s

/-! ### Directions -/

inductive Direction where
  | left | right | arabic | arabicNumber | europeanNumber | separator | nonspacing
  deriving DecidableEq

def direction (c : Char) : Direction :=
  if ClassTable.rightToLeft.contains c then .right
  else if ClassTable.arabicLetter.contains c then .arabic
  else if ClassTable.arabicNumber.contains c then .arabicNumber
  else if ClassTable.europeanNumber.contains c then .europeanNumber
  else if ClassTable.nonspacing.contains c then .nonspacing
  else if ClassTable.europeanSeparator.contains c || ClassTable.commonSeparator.contains c ||
    ClassTable.europeanTerminator.contains c || ClassTable.otherNeutral.contains c ||
    ClassTable.boundaryNeutral.contains c then .separator
  else .left

/-- A name with such a character has its labels checked for their direction. -/
def turnsRight (c : Char) : Bool :=
  match direction c with
  | .right | .arabic | .arabicNumber => true
  | _ => false

/-- The label has one direction that its first and last characters show. -/
def hasDirection (label : List Char) : Bool :=
  let ds := label.map direction
  let final := (ds.reverse.dropWhile (· = .nonspacing)).head?
  match ds.head? with
  | none => true
  | some .right | some .arabic =>
    ds.all (· ≠ .left) && !(ds.contains .europeanNumber && ds.contains .arabicNumber) &&
      (final = some .right || final = some .arabic || final = some .europeanNumber ||
        final = some .arabicNumber)
  | some .left =>
    ds.all (fun d => d ≠ .right && d ≠ .arabic && d ≠ .arabicNumber) &&
      (final = some .left || final = some .europeanNumber)
  | some _ => false

/-! ### Joiners -/

/-- What joiners need of the characters before them, last one first, and after them. -/
def joinersFit (before : List Char) : List Char → Bool
  | [] => true
  | c :: rest =>
    let afterVirama := (before.head?.map ClassTable.virama.contains).getD false
    let between :=
      match before.dropWhile ClassTable.transparent.contains,
          rest.dropWhile ClassTable.transparent.contains with
      | a :: _, b :: _ =>
        (ClassTable.joinsLeft.contains a || ClassTable.joinsBoth.contains a) &&
          (ClassTable.joinsRight.contains b || ClassTable.joinsBoth.contains b)
      | _, _ => false
    let fits :=
      if c.toNat = 0x200C then afterVirama || between
      else if c.toNat = 0x200D then afterVirama
      else true
    fits && joinersFit (c :: before) rest

/-! ### Labels -/

def isLabel (label : List Char) : Bool :=
  label.all (fun c => isValid c && !isDenied c) &&
    !((label.head?.map ClassTable.mark.contains).getD false) && joinersFit [] label

/-- What a label stands for, once its characters are mapped. -/
def decodeLabel (label : List Char) : Option (List Char) :=
  match label with
  | 'x' :: 'n' :: '-' :: '-' :: rest => do
    let decoded ← Punycode.decode? rest
    if decoded.all (·.toNat < 128) || Normal.normalize decoded ≠ decoded ||
      decoded.take 4 = ['x', 'n', '-', '-'] then none
    else if isLabel decoded then some decoded else none
  | _ => if isLabel label then some label else none

def encodeLabel (label : List Char) : List Char :=
  if label.all (·.toNat < 128) then label else 'x' :: 'n' :: '-' :: '-' :: Punycode.encode label

def toAscii? (s : List Char) : Option (List Char) := do
  let mapped ← s.mapM mapChar
  let decoded ← (labels (Normal.normalize mapped.flatten)).mapM decodeLabel
  if decoded.any (·.any turnsRight) && !decoded.all hasDirection then none
  else some (['.'].intercalate (decoded.map encodeLabel))

end Courier.Idna
