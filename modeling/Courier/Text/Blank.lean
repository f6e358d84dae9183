/-!
# Blank characters

A blank is a character that carries white space and nothing else, in any script. Readers that
allow padding skip blanks, and values taken from the environment are trimmed of them.
-/

namespace Courier.Text

/-- White space in the sense of the Unicode property of that name. -/
def isBlank (c : Char) : Bool :=
  let n := c.toNat
  (9 ≤ n && n ≤ 13) || n == 0x20 || n == 0x85 || n == 0xA0 || n == 0x1680 ||
    (0x2000 ≤ n && n ≤ 0x200A) || n == 0x2028 || n == 0x2029 || n == 0x202F || n == 0x205F ||
    n == 0x3000

def skipBlanks (s : List Char) : List Char := s.dropWhile isBlank

def trimBlanks (s : List Char) : List Char := (skipBlanks (skipBlanks s).reverse).reverse

/-- The words of a text, which are separated by blanks; `word` holds the current one, last character
first. -/
def wordsFrom (word : List Char) : List Char → List (List Char)
  | [] => if word.isEmpty then [] else [word.reverse]
  | c :: rest =>
    if isBlank c then
      if word.isEmpty then wordsFrom [] rest else word.reverse :: wordsFrom [] rest
    else wordsFrom (c :: word) rest

/-- The text with single spaces between its words and no other blanks. -/
def collapseBlanks (s : List Char) : List Char := [' '].intercalate (wordsFrom [] s)

theorem skipBlanks_of_not_blank {c : Char} {s : List Char} (h : isBlank c = false) :
    skipBlanks (c :: s) = c :: s := by
  simp [skipBlanks, h]

end Courier.Text
