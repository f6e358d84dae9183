import Courier.Text.Hex
import Courier.Text.PrintTable

/-!
# Quoted text for messages

A text between quotes as messages show it: quotes and backslashes are escaped, and so are characters
that cannot be seen and marks that would combine with what stands before them.
-/

namespace Courier.Text

def escapeByNumber (c : Char) : List Char :=
  '\\' :: 'u' :: '\x7b' :: (Hex.minimal c.toNat ++ ['\x7d'])

def showChar (c : Char) : List Char :=
  if c = '"' ∨ c = '\\' then ['\\', c]
  else if c = '\n' then ['\\', 'n']
  else if c = '\t' then ['\\', 't']
  else if c = '\r' then ['\\', 'r']
  else if c.toNat = 0 then ['\\', '0']
  else if 32 ≤ c.toNat ∧ c.toNat < 127 then [c]
  else if PrintTable.visible.contains c && !PrintTable.extending.contains c then [c]
  else escapeByNumber c

def quoted (s : String) : String := String.ofList ('"' :: (s.toList.flatMap showChar ++ ['"']))

def quotedList (l : List String) : String := "[" ++ ", ".intercalate (l.map quoted) ++ "]"

end Courier.Text
