import Courier.Json.Node

/-!
# Decoding JSON

Decoders read domain values off syntax trees. They meet problems in the order of the text; the
fields that a record lacks are noticed last, in the order in which the record declares them.
-/

namespace Courier.Json

inductive Failure where
  | missingField (name : String)
  | duplicateField (name : String)
  | unknownVariant (name : String) (expected : List String)
  | malformed
  deriving DecidableEq

def Failure.message : Failure → Option String
  | missingField name => some ("missing field `" ++ name ++ "`")
  | duplicateField name => some ("duplicate field `" ++ name ++ "`")
  | unknownVariant name expected =>
    some ("unknown variant `" ++ name ++ "`, expected one of " ++
      ", ".intercalate (expected.map fun s => "`" ++ s ++ "`"))
  | malformed => none

/-- Reads a value that may contain so many further levels of arrays and objects. -/
abbrev Decoder (α : Type) := Nat → Node → Except Failure α

/-- The levels of arrays and objects that a text may nest. -/
def maxLevels : Nat := 127

namespace Decoder

variable {α β : Type}

def text : Decoder String
  | _, .string (some s) => .ok s
  | _, _ => .error .malformed

def bool : Decoder Bool
  | _, .bool b => .ok b
  | _, _ => .error .malformed

def integer (least greatest : Int) : Decoder Int
  | _, .number (some n) =>
    match n.toInt? with
    | some i => if least ≤ i ∧ i ≤ greatest then .ok i else .error .malformed
    | none => .error .malformed
  | _, _ => .error .malformed

def ofText (f : List Char → Option α) : Decoder α := fun levels v => do
  match f (← text levels v).toList with
  | some a => .ok a
  | none => .error .malformed

def map (f : α → β) (d : Decoder α) : Decoder β := fun levels v => (d levels v).map f

def nullable (d : Decoder α) : Decoder (Option α)
  | _, .null => .ok none
  | levels, v => (d levels v).map some

/-- One of several names, alone or as the only key of an object with the value null. -/
def variant (names : List String) (f : String → Option α) : Decoder α := fun levels v =>
  let named (s : String) : Except Failure α :=
    match f s with
    | some a => .ok a
    | none => .error (.unknownVariant s names)
  match v with
  | .string (some s) => named s
  | .object ((some s, w) :: more) closed => do
    if levels = 0 then .error .malformed
    let a ← named s
    match w, more, closed with
    | .null, [], true => .ok a
    | _, _, _ => .error .malformed
  | _ => .error .malformed

def entries (d : Decoder α) (levels : Nat) :
    List (Option String × Node) → Except Failure (List (String × α))
  | [] => .ok []
  | (none, _) :: _ => .error .malformed
  | (some k, v) :: rest => do
    let a ← d levels v
    let as ← entries d levels rest
    return (k, a) :: as

/-- An object with arbitrary keys; of repeated keys the last counts. -/
def dict (d : Decoder α) : Decoder (Dict α)
  | levels + 1, .object members closed => do
    let es ← entries d levels members
    if closed then .ok (Dict.ofList es) else .error .malformed
  | _, _ => .error .malformed

mutual

def json (levels : Nat) : Node → Except Failure Json
  | .null => .ok .null
  | .bool b => .ok (.bool b)
  | .number (some n) => .ok (.number n)
  | .string (some s) => .ok (.string s)
  | .array items closed =>
    match levels with
    | levels + 1 => do
      let vs ← jsonItems levels items
      if closed then .ok (.array vs) else .error .malformed
    | 0 => .error .malformed
  | .object members closed =>
    match levels with
    | levels + 1 => do
      let es ← jsonMembers levels members
      if closed then .ok (.object (Dict.ofList es).entries) else .error .malformed
    | 0 => .error .malformed
  | _ => .error .malformed

def jsonItems (levels : Nat) : List Node → Except Failure (List Json)
  | [] => .ok []
  | v :: vs => do
    let a ← json levels v
    let as ← jsonItems levels vs
    return a :: as

def jsonMembers (levels : Nat) : List (Option String × Node) → Except Failure (List (String × Json))
  | [] => .ok []
  | (none, _) :: _ => .error .malformed
  | (some k, v) :: rest => do
    let a ← json levels v
    let as ← jsonMembers levels rest
    return (k, a) :: as

end

end Decoder

/-! ### Records -/

structure Field (α : Type) where
  name : String
  decode : Decoder α
  /-- The value if an object lacks the field. -/
  absent : Option α
  /-- The value if an array ends before the field. -/
  beyondEnd : Option α

def Field.required {α : Type} (name : String) (d : Decoder α) : Field α := ⟨name, d, none, none⟩

/-- A field that an object may lack, or set to null. -/
def Field.optional {α : Type} (name : String) (d : Decoder α) : Field (Option α) :=
  ⟨name, d.nullable, some none, none⟩

def Field.defaulted {α : Type} (name : String) (d : Decoder α) (a : α) : Field α :=
  ⟨name, d, some a, some a⟩

/-- The fields of a record in the order of declaration, and how the record is made of them. -/
inductive Record : Type → Type 1 where
  | make {α : Type} (a : α) : Record α
  | app {α β : Type} (r : Record (β → α)) (f : Field β) : Record α

namespace Record

variable {α : Type}

/-- What a field's value has to pass, if the record has the field. -/
def check? (name : String) : {α : Type} → Record α → Option (Decoder Unit)
  | _, .make _ => none
  | _, .app r f =>
    match check? name r with
    | some d => some d
    | none => if f.name = name then some (f.decode.map fun _ => ()) else none

/-- Looks at the members of an object in reading order, after those named in `seen`. With `strict`
a record admits no other fields. -/
def checkMembers (r : Record α) (strict : Bool) (levels : Nat) (seen : List String) :
    List (Option String × Node) → Except Failure Unit
  | [] => .ok ()
  | (none, _) :: _ => .error .malformed
  | (some k, v) :: rest =>
    match r.check? k with
    | some d =>
      if k ∈ seen then .error (.duplicateField k)
      else do
        d levels v
        r.checkMembers strict levels (k :: seen) rest
    | none =>
      if strict || !v.isWhole then .error .malformed else r.checkMembers strict levels seen rest

def member (levels : Nat) (members : List (Option String × Node)) {β : Type} (f : Field β) :
    Except Failure β :=
  match members.find? (fun m => m.1 == some f.name) with
  | some (_, v) => f.decode levels v
  | none =>
    match f.absent with
    | some a => .ok a
    | none => .error (.missingField f.name)

def ofMembers (levels : Nat) (members : List (Option String × Node)) :
    {α : Type} → Record α → Except Failure α
  | _, .make a => .ok a
  | _, .app r f => do
    let g ← ofMembers levels members r
    let b ← member levels members f
    return g b

def ofItems (levels : Nat) (items : List Node) :
    {α : Type} → Record α → Except Failure (α × List Node)
  | _, .make a => .ok (a, items)
  | _, .app r f => do
    let (g, rest) ← ofItems levels items r
    match rest with
    | v :: rest =>
      let b ← f.decode levels v
      return (g b, rest)
    | [] =>
      match f.beyondEnd with
      | some b => .ok (g b, [])
      | none => .error .malformed

/-- A record is written as an object, or as an array of its fields in the order of declaration. -/
def decoder (r : Record α) (strict : Bool) : Decoder α
  | levels + 1, .object members closed => do
    r.checkMembers strict levels [] members
    if closed then r.ofMembers levels members else .error .malformed
  | levels + 1, .array items closed => do
    let (a, rest) ← r.ofItems levels items
    if rest.isEmpty && closed then .ok a else .error .malformed
  | _, _ => .error .malformed

end Record

def decodeText {α : Type} (d : Decoder α) (s : String) : Except Failure α := do
  let (v, complete) := Node.ofText s.toList
  let a ← d maxLevels v
  if complete then .ok a else .error .malformed

def parse (s : String) : Except Failure Json := decodeText Decoder.json s

end Courier.Json
