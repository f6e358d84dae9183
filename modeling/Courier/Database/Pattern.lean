/-!
# Patterns for names

In a pattern a percent sign stands for any run of characters and an underscore for any single one. A
backslash makes the character after it stand for itself.
-/

namespace Courier.Pattern

def escapeUnderscore (c : Char) : List Char := if c = '_' then ['\\', '_'] else [c]

/-- The pattern of the texts that begin with `s`. In `s` underscores stand for themselves. -/
def startingWith (s : String) : String :=
  String.ofList (s.toList.flatMap escapeUnderscore ++ ['%'])

/-- Some end of the text satisfies `f`; the whole text and the empty one count as ends. -/
def anyEnd (f : List Char → Bool) : List Char → Bool
  | [] => f []
  | c :: s => f (c :: s) || anyEnd f s

/-- The text has the form that the pattern describes. A pattern that ends with a backslash describes
no text. -/
def describes : List Char → List Char → Bool
  | [], s => s.isEmpty
  | c :: p, s =>
    if c = '%' then anyEnd (describes p) s
    else if c = '_' then
      match s with
      | [] => false
      | _ :: s => describes p s
    else if c = '\\' then
      match p, s with
      | c :: p, d :: s => c = d && describes p s
      | _, _ => false
    else
      match s with
      | [] => false
      | d :: s => c = d && describes p s

end Courier.Pattern
