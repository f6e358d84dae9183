import Courier.Toml.Scalar

/-!
# TOML documents

A document is a table of values by key. Tables are opened by headers or by dotted keys, and a table
that was written out in one way is not added to in another.
-/

namespace Courier.Toml

inductive Item where
  | string (s : String)
  | integer (i : Int)
  | float (x : Binary64)
  | bool (b : Bool)
  | dateTime
  | array (items : List Item)
  /-- A table between braces. -/
  | inlineTable (entries : List (String × Item))
  /-- A table that headers or dotted keys opened. No header of its own names an implicit table. -/
  | table (isImplicit isDotted : Bool) (entries : List (String × Item))
  /-- Tables that headers in double brackets opened, last one first. -/
  | tables (entries : List (List (String × Item)))

abbrev Entries := List (String × Item)

namespace Entries

def get? (t : Entries) (key : String) : Option Item := (t.find? (·.1 = key)).map (·.2)

def put (t : Entries) (key : String) (i : Item) : Entries :=
  (t.filter (·.1 ≠ key)) ++ [(key, i)]

/-- Walks to the table at a path, opening tables on the way, and changes it with `f`, which is told
whether the table was opened by a dotted key. -/
def change (viaDots : Bool) (f : Bool → Entries → Option Entries) (here : Bool) :
    List String → Entries → Option Entries
  | [], t => f here t
  | key :: path, t =>
    match get? t key with
    | none => do
      let inner ← change viaDots f viaDots path []
      some (put t key (.table true viaDots inner))
    | some (.table isImplicit isDotted inner) =>
      if viaDots && !isImplicit then none
      else do
        let inner ← change viaDots f isDotted path inner
        some (put t key (.table isImplicit isDotted inner))
    | some (.tables (inner :: rest)) => do
      let inner ← change viaDots f false path inner
      some (put t key (.tables (inner :: rest)))
    | some _ => none

/-- Enters a value under a dotted key. Dots do not lead into a table that a header opened. -/
def enter (path : List String) (key : String) (i : Item) (t : Entries) : Option Entries :=
  change true
    (fun isDotted inner =>
      if isDotted = path.isEmpty then none
      else if (get? inner key).isSome then none
      else some (put inner key i))
    false path t

end Entries

/-! ### Keys and blanks -/

def isBare (c : Char) : Bool := c.isAlphanum || c = '_' || c = '-'

def isComment (c : Char) : Bool := c = '\t' || (32 ≤ c.toNat && c.toNat ≠ 127)

def skipSpaces (s : List Char) : List Char := s.dropWhile isSpace

def skipComment (s : List Char) : List Char :=
  match s with
  | '#' :: rest => rest.dropWhile isComment
  | rest => rest

/-- Skips blanks, comments and line ends; `fuel` bounds the number of lines. -/
def skipLines : Nat → List Char → Option (List Char)
  | 0, _ => none
  | fuel + 1, s =>
    let s := skipSpaces s
    match newline? s with
    | some rest => skipLines fuel rest
    | none =>
      if s.head? = some '#' then
        match newline? (skipComment s) with
        | some rest => skipLines fuel rest
        | none => none
      else some s

/-- What follows the rest of a line that holds nothing but blanks and a comment. -/
def endLine? (s : List Char) : Option (List Char) :=
  match skipComment (skipSpaces s) with
  | [] => some []
  | rest => newline? rest

def readPart (s : List Char) : Option (String × List Char) :=
  if s.head? = some '"' then
    (readEscaped isPlain (s.drop 1)).map fun (k, r) => (String.ofList k, r)
  else if s.head? = some apostrophe then
    (readLiteral (s.drop 1)).map fun (k, r) => (String.ofList k, r)
  else
    let k := s.takeWhile isBare
    if k.isEmpty then none else some (String.ofList k, s.drop k.length)

def readParts : Nat → List Char → Option (List String × List Char)
  | 0, _ => none
  | fuel + 1, s => do
    let (k, s) ← readPart (skipSpaces s)
    match skipSpaces s with
    | '.' :: rest =>
      let (ks, s) ← readParts fuel rest
      return (k :: ks, s)
    | rest => return ([k], rest)

/-- The most parts of a key, and the deepest nesting of arrays and tables between braces. -/
def maxLevels : Nat := 79

def readKey (s : List Char) : Option (List String × List Char) :=
  (readParts (s.length + 1) s).filter (·.1.length ≤ maxLevels)

/-! ### Values -/

def isWordChar (c : Char) : Bool :=
  c.isAlphanum || c = '+' || c = '-' || c = '.' || c = '_' || c = ':'

def word (s : List Char) : Option Item :=
  if s = ['t', 'r', 'u', 'e'] then some (.bool true)
  else if s = ['f', 'a', 'l', 's', 'e'] then some (.bool false)
  else if isDateTime s then some .dateTime
  else
    match integer? s with
    | some i => some (.integer i)
    | none => (float? s).map .float

/-- Reads a number, a date or a word. A time may follow its date after a space. -/
def readWord (s : List Char) : Option (Item × List Char) :=
  let w := s.takeWhile isWordChar
  let rest := s.drop w.length
  match rest with
  | ' ' :: more =>
    let v := more.takeWhile isWordChar
    if date? w = some [] ∧ (v[2]? = some ':') then
      if isDateTime (w ++ ' ' :: v) then some (.dateTime, more.drop v.length) else none
    else (word w).map (·, rest)
  | _ => (word w).map (·, rest)

mutual

def readValue : Nat → Nat → List Char → Option (Item × List Char)
  | 0, _, _ => none
  | fuel + 1, levels, s =>
    match s with
    | '[' :: rest =>
      if levels = 0 then none
      else do
        let (items, rest) ← readItems fuel (levels - 1) (← skipLines (rest.length + 1) rest)
        return (.array items, rest)
    | '\x7b' :: rest =>
      if levels = 0 then none
      else
        match skipSpaces rest with
        | '\x7d' :: rest => some (.inlineTable [], rest)
        | rest => do
          let (entries, rest) ← readEntries fuel (levels - 1) [] rest
          return (.inlineTable entries, rest)
    | c :: _ =>
      if c = '"' ∨ c = apostrophe then
        (readString s).map fun (t, rest) => (.string (String.ofList t), rest)
      else readWord s
    | [] => none

def readItems : Nat → Nat → List Char → Option (List Item × List Char)
  | 0, _, _ => none
  | fuel + 1, levels, s =>
    match s with
    | ']' :: rest => some ([], rest)
    | s => do
      let (v, s) ← readValue fuel levels s
      match ← skipLines (s.length + 1) s with
      | ',' :: rest =>
        let (vs, rest) ← readItems fuel levels (← skipLines (rest.length + 1) rest)
        return (v :: vs, rest)
      | ']' :: rest => return ([v], rest)
      | _ => none

def readEntries : Nat → Nat → Entries → List Char → Option (Entries × List Char)
  | 0, _, _, _ => none
  | fuel + 1, levels, t, s => do
    let (path, s) ← readKey s
    let rest ← expect '=' s
    let (v, s) ← readValue fuel levels (skipSpaces rest)
    let t ← t.enter path.dropLast (path.getLast?.getD "") v
    match skipSpaces s with
    | ',' :: rest => readEntries fuel levels t rest
    | '\x7d' :: rest => return (t, rest)
    | _ => none

end

/-! ### Documents -/

/-- A document as far as it is read: its tables, and the table that is being written out with its
path. -/
structure Draft where
  root : Entries
  path : List String
  /-- The current table is one of several under its name. -/
  isItem : Bool
  current : Entries

def Draft.close (d : Draft) : Option Entries :=
  match d.path.getLast? with
  | none => some d.current
  | some key =>
    d.root.change false
      (fun _ t =>
        if d.isItem then
          match t.get? key with
          | none => some (t.put key (.tables [d.current]))
          | some (.tables ts) => some (t.put key (.tables (d.current :: ts)))
          | some _ => none
        else some (t.put key (.table false false d.current)))
      false d.path.dropLast

/-- The table at a path and what stands there under `key`, once the tables on the way are opened. -/
def Draft.parent (root : Entries) (path : List String) (key : String) :
    Option (Entries × Option Item) := do
  let root ← root.change false (fun _ t => some t) false path
  return (root, find root path)
where
  find (t : Entries) : List String → Option Item
    | [] => t.get? key
    | k :: rest =>
      match t.get? k with
      | some (.table _ _ inner) => find inner rest
      | some (.tables (inner :: _)) => find inner rest
      | _ => none

/-- Opens the table of a header. -/
def Draft.openTable (d : Draft) (path : List String) : Option Draft := do
  let root ← d.close
  let key ← path.getLast?
  let (root, old) ← Draft.parent root path.dropLast key
  match old with
  | none => return ⟨root, path, false, []⟩
  | some (.table true false inner) => return ⟨root, path, false, inner⟩
  | some _ => none

def Draft.openItem (d : Draft) (path : List String) : Option Draft := do
  let root ← d.close
  let key ← path.getLast?
  let (root, old) ← Draft.parent root path.dropLast key
  match old with
  | none | some (.tables _) => return ⟨root, path, true, []⟩
  | some _ => none

/-- Reads the lines of a document; `fuel` bounds their number. -/
def readDocument : Nat → Draft → List Char → Option Entries
  | 0, _, _ => none
  | fuel + 1, d, s =>
    match skipSpaces s with
    | [] => d.close
    | '[' :: '[' :: rest => do
      let (path, s) ← readKey rest
      let s ← expect ']' (← expect ']' s)
      readDocument fuel (← d.openItem path) (← endLine? s)
    | '[' :: rest => do
      let (path, s) ← readKey rest
      let s ← expect ']' s
      readDocument fuel (← d.openTable path) (← endLine? s)
    | c :: rest =>
      if c = '#' ∨ (newline? (c :: rest)).isSome then do
        readDocument fuel d (← endLine? (c :: rest))
      else do
        let (path, s) ← readKey (c :: rest)
        let after ← expect '=' s
        let (v, s) ← readValue (after.length + 1) maxLevels (skipSpaces after)
        let current ← d.current.enter path.dropLast (path.getLast?.getD "") v
        readDocument fuel { d with current } (← endLine? s)

/-- The table of a document, if it is well-formed. A byte order mark in front is skipped. -/
def parse? (s : String) : Option Entries :=
  let s := s.toList
  let s := if s.head? = some '\uFEFF' then s.drop 1 else s
  readDocument (s.length + 1) ⟨[], [], false, []⟩ s

end Courier.Toml
