import Courier.Text.Search

/-!
# Masked connection URLs

The URL of the database may hold a password, which is replaced before the URL is shown: what stands
after the first colon of the user information, which reaches to the last at sign.
-/

namespace Courier.Settings

def cutAtLast? (c : Char) : List Char → Option (List Char × List Char)
  | [] => none
  | d :: rest =>
    match cutAtLast? c rest with
    | some (before, after) => some (d :: before, after)
    | none => if d = c then some ([], rest) else none

/-- The scheme of a URL with the mark after it, and the rest; no scheme if there is no mark. -/
def cutScheme (url : List Char) : List Char × List Char :=
  match Text.cutAt? "://".toList url with
  | some (scheme, rest) => (scheme ++ "://".toList, rest)
  | none => ([], url)

/-- User information with the password replaced, if it has one. -/
def maskUser? (user : List Char) : Option (List Char) :=
  (Text.cutAt? [':'] user).map fun (name, _) => name ++ ":***".toList

def maskedUrl (url : String) : String :=
  let (scheme, rest) := cutScheme url.toList
  match cutAtLast? '@' rest with
  | none => url
  | some (user, host) =>
    match maskUser? user with
    | none => url
    | some masked => String.ofList (scheme ++ masked ++ '@' :: host)

end Courier.Settings
