import Courier.Data.Dict
import Courier.Settings.RawValue
import Courier.Text.Blank
import Courier.Text.CharSet

/-!
# Environment variables

The value of a variable is a word, a quoted text, a sequence in brackets or a map in braces.
Whatever is none of these as a whole stands for itself.
-/

namespace Courier.Variable

open Text

/-- White space around the parts of a value. -/
def isGap (c : Char) : Bool :=
  c = ' ' || c = '\t' || c = '\n' || c = '\x0c' || c = '\r'

def skipGaps (s : List Char) : List Char := s.dropWhile isGap

def isSeparator (c : Char) : Bool :=
  c = ',' || c = '\x7b' || c = '\x7d' || c = '[' || c = ']'

def isKeyChar (c : Char) : Bool := c.isAlphanum || c = '_' || c = '-'

/-! ### Words -/

def wholeNumber? (s : List Char) : Option Nat :=
  if !s.isEmpty && s.all Decimal.isDigit then some (Decimal.value s) else none

/-- A number of 64 bits without a minus sign. -/
def unsigned? (s : List Char) : Option Nat :=
  (wholeNumber? (if s.head? = some '+' then s.drop 1 else s)).filter (· < 2 ^ 64)

/-- A number of 64 bits with a minus sign. -/
def negative? (s : List Char) : Option Int :=
  match s with
  | '-' :: ds => ((wholeNumber? ds).filter (· ≤ 2 ^ 63)).map fun n => -(n : Int)
  | _ => none

/-- The exponent of ten behind a number, zero if there is none. -/
def exponent? (s : List Char) : Option Int :=
  match s with
  | [] => some 0
  | c :: rest =>
    let (isNegative, ds) := Toml.sign rest
    if c = 'e' ∨ c = 'E' then
      (wholeNumber? ds).map fun n => if isNegative then -(n : Int) else n
    else none

/-- A number with a point, which needs digits on one side of it only. -/
def float? (s : List Char) : Option Binary64 :=
  let (isNegative, s) := Toml.sign s
  let whole := s.takeWhile Decimal.isDigit
  match s.drop whole.length with
  | '.' :: rest =>
    let fraction := rest.takeWhile Decimal.isDigit
    if whole.isEmpty && fraction.isEmpty then none
    else (exponent? (rest.drop fraction.length)).map (Toml.realOf isNegative whole fraction)
  | _ => none

/-- The value of a word: a number if it is one, and else a text. -/
def ofWord (s : List Char) : RawValue :=
  match float? s, unsigned? s, negative? s with
  | some x, _, _ => .float x
  | none, some n, _ => .unsigned n
  | none, none, some i => .signed i
  | none, none, none => .text (String.ofList s)

/-! ### Values -/

def skipKey (s : List Char) : Option (List Char) :=
  let s := skipGaps s
  let rest :=
    if s.head? = some '"' then (Toml.readEscaped (fun _ => true) (s.drop 1)).map (·.2)
    else if s.head?.any isKeyChar then some (s.dropWhile isKeyChar)
    else none
  rest.bind fun s => Toml.expect '=' (skipGaps s)

mutual

def readValue : Nat → List Char → Option (RawValue × List Char)
  | 0, _ => none
  | fuel + 1, s =>
    (readBare fuel (skipGaps s)).map fun (v, rest) => (v, skipGaps rest)

def readBare : Nat → List Char → Option (RawValue × List Char)
  | 0, _ => none
  | fuel + 1, s =>
    match s with
    | 't' :: 'r' :: 'u' :: 'e' :: rest => some (.bool true, rest)
    | 'f' :: 'a' :: 'l' :: 's' :: 'e' :: rest => some (.bool false, rest)
    | '\x7b' :: rest => (skipMembers fuel rest).map (.map, ·)
    | '[' :: rest => (skipItems fuel rest).map (.sequence, ·)
    | '"' :: rest =>
      (Toml.readEscaped (fun _ => true) rest).map fun (t, rest) => (.text (String.ofList t), rest)
    | s =>
      if s.head? = some Toml.apostrophe then
        match s.drop 1 with
        | c :: d :: rest =>
          if d = Toml.apostrophe then some (.text (String.singleton c), rest) else none
        | _ => none
      else
        let w := s.takeWhile fun c => !isSeparator c
        some (ofWord (trimBlanks w), s.drop w.length)

/-- What follows the items of a sequence and its closing bracket. A comma may end the items. -/
def skipItems : Nat → List Char → Option (List Char)
  | 0, _ => none
  | fuel + 1, s =>
    if s.head? = some ']' then some (s.drop 1)
    else
      (readValue fuel s).bind fun (_, rest) =>
        if rest.head? = some ',' then skipItems fuel (rest.drop 1) else Toml.expect ']' rest

/-- What follows the entries of a map and its closing brace. A comma may end the entries. -/
def skipMembers : Nat → List Char → Option (List Char)
  | 0, _ => none
  | fuel + 1, s =>
    if s.head? = some '\x7d' then some (s.drop 1)
    else
      ((skipKey s).bind (readValue fuel)).bind fun (_, rest) =>
        if rest.head? = some ',' then skipMembers fuel (rest.drop 1) else Toml.expect '\x7d' rest

end

def read (text : String) : RawValue :=
  let s := trimBlanks text.toList
  match readValue (3 * s.length + 3) s with
  | some (v, []) => v
  | _ => .text (String.ofList s)

/-! ### Names -/

/-- The name that a variable goes by: white space around it does not matter, nor does case. -/
def key (name : String) : String := String.ofList ((trimBlanks name.toList).map Char.toLower)

/-- The setting that a variable is about, and whether it only adds to a map there, as names with
points do. -/
def target? (name : String) : Option (String × Bool) :=
  match splitAt '.' (key name).toList with
  | [] => none
  | part :: more =>
    if part.isEmpty || more.any (·.isEmpty) then none
    else some (String.ofList part, !more.isEmpty)

/-- The value that the environment gives to a setting. Case does not matter in the names of
variables, and the last of several in the order of their names counts. -/
def value? (environment : Dict String) (setting : String) : Option RawValue :=
  (environment.entries.filterMap fun (name, text) =>
    match target? name with
    | some (part, isNested) =>
      if part = setting then some (if isNested then .map else read text) else none
    | none => none).getLast?

end Courier.Variable
