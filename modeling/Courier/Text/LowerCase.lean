import Courier.Text.CaseTable

/-!
# Lower case

Texts in lower case. A capital sigma becomes a final one if it ends a word: a cased character
stands before it and none after it, where marks and the like are looked through.
-/

namespace Courier.Text

/-- A cased character comes first, once the characters that case rules look through are skipped. -/
def meetsCased (s : List Char) : Bool :=
  match s.dropWhile CaseTable.ignorable.contains with
  | c :: _ => CaseTable.cased.contains c
  | [] => false

def lowerChar (c : Char) : List Char :=
  if c.toNat < 128 then [c.toLower]
  else
    match CaseTable.lower.get? c with
    | some image => image.map Char.ofNat
    | none => [c]

/-- The lower-case form of a text that follows the characters `before`, last one first. -/
def lowerFrom (before : List Char) : List Char → List Char
  | [] => []
  | c :: rest =>
    let lowered :=
      if c = 'Σ' then if meetsCased before && !meetsCased rest then ['ς'] else ['σ']
      else lowerChar c
    lowered ++ lowerFrom (c :: before) rest

def lowerCase (s : String) : String := String.ofList (lowerFrom [] s.toList)

end Courier.Text
