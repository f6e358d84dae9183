import Courier.Json.Token

/-!
# JSON syntax trees

What a text shows of its values up to its first fault. A container that the text breaks off in is
marked as not closed, so that readers that work through a tree in order meet the first problem
first, whether it lies in the syntax or in the meaning.
-/

namespace Courier.Json

inductive Node where
  | null
  | bool (b : Bool)
  /-- No number if the literal is too large for any. -/
  | number (n : Option Number)
  /-- No text if an escape names half of a surrogate pair. -/
  | string (s : Option String)
  | array (items : List Node) (closed : Bool)
  | object (members : List (Option String × Node)) (closed : Bool)
  /-- There is no value where one should be. -/
  | broken
  deriving Inhabited

/-- A container that is still open, with what has been read of it, last item first. -/
inductive Frame where
  | items (done : List Node)
  | members (done : List (Option String × Node)) (key : Option String)

inductive Expect where
  | value
  /-- A value, or the end of an array that has no items yet. -/
  | firstItem
  | key (done : List (Option String × Node))
  /-- A key, or the end of an object that has no members yet. -/
  | firstKey
  | colon (done : List (Option String × Node)) (key : Option String)
  | after (v : Node)

/-- The tree when the text breaks off within the open containers. -/
def abandon (inner : Node) : List Frame → Node
  | [] => inner
  | .items done :: stack => abandon (.array (inner :: done).reverse false) stack
  | .members done key :: stack => abandon (.object ((key, inner) :: done).reverse false) stack

/-- The tree when the text breaks off and no value has been begun. -/
def breakOff (e : Expect) (stack : List Frame) : Node :=
  match e, stack with
  | .firstItem, stack => abandon (.array [] false) stack
  | .firstKey, stack => abandon (.object [] false) stack
  | .key done, stack => abandon (.object done.reverse false) stack
  | .colon done key, stack => abandon (.object ((key, .broken) :: done).reverse false) stack
  | .after v, .items done :: stack => abandon (.array (v :: done).reverse false) stack
  | .after v, .members done key :: stack =>
    abandon (.object ((key, v) :: done).reverse false) stack
  | .after v, [] => v
  | .value, stack => abandon .broken stack

/-- Reads the tokens of one value within the open containers; gives the tree and the tokens that
follow it. -/
def grow (e : Expect) (stack : List Frame) : List Token → Node × List Token
  | [] => (breakOff e stack, [])
  | t :: ts =>
    match e, stack, t with
    | .after v, [], t => (v, t :: ts)
    | .after v, .items done :: stack, .comma => grow .value (.items (v :: done) :: stack) ts
    | .after v, .items done :: stack, .closeBracket =>
      grow (.after (.array (v :: done).reverse true)) stack ts
    | .after v, .members done key :: stack, .comma => grow (.key ((key, v) :: done)) stack ts
    | .after v, .members done key :: stack, .closeBrace =>
      grow (.after (.object ((key, v) :: done).reverse true)) stack ts
    | .firstItem, stack, .closeBracket => grow (.after (.array [] true)) stack ts
    | .firstKey, stack, .closeBrace => grow (.after (.object [] true)) stack ts
    | .firstKey, stack, .string s => grow (.colon [] s) stack ts
    | .key done, stack, .string s => grow (.colon done s) stack ts
    | .colon done key, stack, .colon => grow .value (.members done key :: stack) ts
    | .value, stack, .null => grow (.after .null) stack ts
    | .value, stack, .bool b => grow (.after (.bool b)) stack ts
    | .value, stack, .number n => grow (.after (.number n)) stack ts
    | .value, stack, .string s => grow (.after (.string s)) stack ts
    | .value, stack, .openBracket => grow .firstItem stack ts
    | .value, stack, .openBrace => grow .firstKey stack ts
    | .firstItem, stack, .null => grow (.after .null) (.items [] :: stack) ts
    | .firstItem, stack, .bool b => grow (.after (.bool b)) (.items [] :: stack) ts
    | .firstItem, stack, .number n => grow (.after (.number n)) (.items [] :: stack) ts
    | .firstItem, stack, .string s => grow (.after (.string s)) (.items [] :: stack) ts
    | .firstItem, stack, .openBracket => grow .firstItem (.items [] :: stack) ts
    | .firstItem, stack, .openBrace => grow .firstKey (.items [] :: stack) ts
    | e, stack, _ => (breakOff e stack, [.fault])

/-- The tree of a text, and whether nothing follows it. -/
def Node.ofText (s : List Char) : Node × Bool :=
  let (v, rest) := grow .value [] (tokens s)
  (v, rest.isEmpty)

/-! ### Reading a tree without minding its meaning -/

mutual

/-- The text shows the whole of the value. -/
def Node.isWhole : Node → Bool
  | .broken => false
  | .array items closed => Node.areWhole items && closed
  | .object members closed => Node.membersAreWhole members && closed
  | _ => true

def Node.areWhole : List Node → Bool
  | [] => true
  | v :: vs => v.isWhole && Node.areWhole vs

def Node.membersAreWhole : List (Option String × Node) → Bool
  | [] => true
  | (_, v) :: vs => v.isWhole && Node.membersAreWhole vs

end

end Courier.Json
