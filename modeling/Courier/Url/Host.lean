import Courier.Idna.Domain
import Courier.Url.Address
import Courier.Url.Percent

/-!
# Hosts

The host of a web address is a domain name or a numeric address, and is brought to one form. The
host of another kind of URL is kept as it is, if it holds no character that ends a host.
-/

namespace Courier.Url

def bracketed? (s : List Char) : Option (List Char) :=
  match s with
  | '[' :: rest =>
    if rest.getLast? = some ']' then some rest.dropLast else none
  | _ => none

def ipv6Host? (s : List Char) : Option (List Char) :=
  ((bracketed? s).bind Ipv6.parse?).map fun gs => '[' :: (Ipv6.text gs ++ [']'])

/-- The host of a web address in its one form. -/
def domainHost? (s : List Char) : Option (List Char) :=
  if s.head? = some '[' then ipv6Host? s
  else do
    let name ← Idna.toAscii? (Percent.decodeText s).toList
    if name.isEmpty then none
    else if Ipv4.endsInNumber name then (Ipv4.parse? name).map Ipv4.text
    else some name

def endsHost (c : Char) : Bool := c.toNat = 0 || " #/:<>?@[\\]^|".toList.contains c

def opaqueHost? (s : List Char) : Option (List Char) :=
  if s.head? = some '[' then ipv6Host? s
  else if s.any endsHost then none
  else some (Percent.encode Percent.inControls s)

end Courier.Url
