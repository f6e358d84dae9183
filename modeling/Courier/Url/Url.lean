import Courier.Url.Host

/-!
# URLs

A text is taken apart into scheme, user, host, port, path and query, and each part is brought to the
form in which it is sent. The schemes of the web are lenient about slashes and always have a host.
-/

namespace Courier

structure Url where
  scheme : String
  /-- The user's name, encoded; empty if there is none. -/
  username : String
  password : Option String
  host : Option String
  /-- The port, unless it is the usual one of the scheme. -/
  port : Option Nat
  path : String
  query : Option String
  deriving DecidableEq

namespace Url

open Text

/-! ### Schemes -/

/-- How the texts of a scheme are read. -/
inductive Family where
  | web
  | file
  | other
  deriving DecidableEq

def usualPort (scheme : String) : Option Nat :=
  if scheme = "http" ∨ scheme = "ws" then some 80
  else if scheme = "https" ∨ scheme = "wss" then some 443
  else if scheme = "ftp" then some 21
  else none

def Family.ofScheme (scheme : String) : Family :=
  if scheme = "file" then .file
  else if (usualPort scheme).isSome then .web
  else .other

def isSchemeChar (c : Char) : Bool := c.isAlphanum || c = '+' || c = '-' || c = '.'

def readScheme? (s : List Char) : Option (String × List Char) :=
  let name := s.takeWhile isSchemeChar
  match name.head?, s.drop name.length with
  | some c, ':' :: rest =>
    if c.isAlpha then some (String.ofList (name.map Char.toLower), rest) else none
  | _, _ => none

/-! ### User and port -/

def endsAuthority (isSpecial : Bool) (c : Char) : Bool :=
  c = '/' || c = '?' || c = '#' || (isSpecial && c = '\\')

/-- Name and password of the user before the last `@`, and what follows it. -/
def readUser? (isSpecial : Bool) (s : List Char) :
    Option (String × Option String × List Char) :=
  let authority := s.takeWhile (!endsAuthority isSpecial ·)
  match authority.reverse.dropWhile (· ≠ '@') with
  | [] => some ("", none, s)
  | _ :: before =>
    let info := before.reverse
    let rest := s.drop (info.length + 1)
    if info.isEmpty && (rest.head?.map (endsAuthority isSpecial)).getD false then none
    else
      let encoded (t : List Char) : String := String.ofList (Percent.encode Percent.inUserinfo t)
      let name := info.takeWhile (· ≠ ':')
      let password := info.drop (name.length + 1)
      some (encoded name, if password.isEmpty then none else some (encoded password), rest)

/-- The host before a colon that stands outside brackets, and what follows it. -/
def cutHost (isSpecial inside : Bool) : List Char → List Char × List Char
  | [] => ([], [])
  | c :: rest =>
    if (c = ':' && !inside) || endsAuthority isSpecial c then ([], c :: rest)
    else
      let (h, r) := cutHost isSpecial (c = '[' || (inside && c ≠ ']')) rest
      (c :: h, r)

/-- The port at the front of a text, unless it is the usual one, and what follows it. -/
def readPort? (scheme : String) (s : List Char) : Option (Option Nat × List Char) :=
  match s with
  | ':' :: rest =>
    let ds := rest.takeWhile Decimal.isDigit
    let after := rest.drop ds.length
    let n := Decimal.value ds
    if 65535 < n then none
    else if (after.head?.map fun c => !endsAuthority true c).getD false then none
    else some (if ds.isEmpty ∨ usualPort scheme = some n then none else some n, after)
  | _ => some (none, s)

/-! ### Path and query -/

/-- The segment stands for its own directory, with points written out or encoded. -/
def isDot (s : List Char) : Bool :=
  let t := String.ofList (s.map Char.toLower)
  t = "." || t = "%2e"

def isDoubleDot (s : List Char) : Bool :=
  let t := String.ofList (s.map Char.toLower)
  t = ".." || t = ".%2e" || t = "%2e." || t = "%2e%2e"

/-- Walks along segments; `above` holds the directories walked into, last one first. -/
def walk (above : List (List Char)) : List (List Char) → List (List Char)
  | [] => above.reverse
  | s :: rest =>
    let above :=
      if isDoubleDot s then above.drop 1 else if isDot s then above else s :: above
    let above :=
      if rest.isEmpty && (isDoubleDot s || isDot s) then [] :: above else above
    walk above rest

def segments (isSpecial : Bool) (s : List Char) : List (List Char) :=
  splitAt '/' (if isSpecial then s.map fun c => if c = '\\' then '/' else c else s)

def pathText (isSpecial : Bool) (s : List Char) : String :=
  String.ofList
    ('/' :: ['/'].intercalate
      (walk [] ((segments isSpecial s).map (Percent.encode Percent.inPath))))

def readPath (isSpecial : Bool) (s : List Char) : String × Option String :=
  let path := s.takeWhile fun c => c ≠ '?' ∧ c ≠ '#'
  let query := match s.drop path.length with
    | '?' :: rest =>
      some (String.ofList
        (Percent.encode (Percent.inQuery isSpecial) (rest.takeWhile (· ≠ '#'))))
    | _ => none
  let text :=
    match path with
    | c :: rest =>
      if c = '/' || (isSpecial && c = '\\') then pathText isSpecial rest
      else pathText isSpecial path
    | [] => if isSpecial then "/" else ""
  (text, query)

/-! ### Whole URLs -/

def afterSlashes? (scheme : String) (isSpecial : Bool) (s : List Char) : Option Url := do
  let (username, password, s) ← readUser? isSpecial s
  let (host, s) := cutHost isSpecial false s
  if host.isEmpty ∧ (isSpecial ∨ s.head? = some ':' ∨ username ≠ "" ∨ password ≠ none) then none
  let host ← if isSpecial then domainHost? host else opaqueHost? host
  let (port, s) ← readPort? scheme s
  let (path, query) := readPath isSpecial s
  return { scheme, username, password, port, path, query,
           host := if host.isEmpty then none else some (String.ofList host) }

/-- A letter and a colon, or a bar in its place: the name of a drive. -/
def isDrive (s : List Char) : Bool :=
  match s with
  | [c, d] => c.isAlpha && (d = ':' || d = '|')
  | _ => false

/-- Reads what follows the colon of a file URL. The host is dropped if it is the own one, or if the
path starts with a drive. -/
def ofFile? (s : List Char) : Option Url := do
  let slash (c : Char) : Bool := c = '/' || c = '\\'
  let without (s : List Char) : Url :=
    let (path, query) := readPath true s
    ⟨"file", "", none, none, none, path, query⟩
  match s with
  | a :: b :: rest =>
    if slash a && slash b then
      let host := rest.takeWhile (!endsAuthority true ·)
      let after := rest.drop host.length
      if host.isEmpty then return without after
      if isDrive host then return without rest
      let name ← domainHost? host
      let segment := (after.drop 1).takeWhile (!endsAuthority true ·)
      if String.ofList name = "localhost" ∨ (isDrive segment ∧ (after.head?.map slash).getD false)
      then return without after
      return { without after with host := some (String.ofList name) }
    else return without s
  | s => return without s

def isPadding (c : Char) : Bool := c.toNat ≤ 32

/-- The text without surrounding padding, tabs and line ends. -/
def clean (s : List Char) : List Char :=
  let trimmed := ((s.dropWhile isPadding).reverse.dropWhile isPadding).reverse
  trimmed.filter fun c => c ≠ '\t' ∧ c ≠ '\n' ∧ c ≠ '\r'

def parse? (s : String) : Option Url := do
  let (scheme, rest) ← readScheme? (clean s.toList)
  match Family.ofScheme scheme with
  | .web => afterSlashes? scheme true (rest.dropWhile fun c => c = '/' || c = '\\')
  | .file => ofFile? rest
  | .other =>
    match rest with
    | '/' :: '/' :: s => afterSlashes? scheme false s
    | '/' :: _ =>
      let (path, query) := readPath false rest
      return ⟨scheme, "", none, none, none, path, query⟩
    | s =>
      let path := s.takeWhile fun c => c ≠ '?' ∧ c ≠ '#'
      let (_, query) := readPath false (s.drop path.length)
      return ⟨scheme, "", none, none, none,
        String.ofList (Percent.encode Percent.inControls path), query⟩

def effectivePort (u : Url) : Option Nat := u.port.or (usualPort u.scheme)

def authority (u : Url) : String :=
  u.host.getD "" ++
    match u.port with
    | some p => ":" ++ String.ofList (Decimal.digits p)
    | none => ""

/-- What is asked of the receiver: path and query. -/
def target (u : Url) : String :=
  u.path ++
    match u.query with
    | some q => "?" ++ q
    | none => ""

end Url

end Courier
