import Courier.Text.LowerCase

/-!
# Request headers

Which names and values a request can carry, and which headers the client sets itself and never
takes from an event.
-/

namespace Courier.Header

/-- The headers that the client sets itself, or that belong to a single connection. -/
def managedNames : List String :=
  ["content-length", "content-type", "host", "user-agent", "connection", "keep-alive",
    "proxy-authenticate", "proxy-authorization", "te", "trailer", "transfer-encoding", "upgrade"]

/-- The header is not to be taken from an event, in whatever case its name is written. -/
def isManaged (name : String) : Bool := managedNames.contains (Text.lowerCase name)

def isTokenChar (c : Char) : Bool :=
  c.isAlphanum || "!#$%&*+-.^_|~".toList.contains c || c.toNat = 39 || c.toNat = 96

/-- How many bytes a name can have. -/
def maxNameSize : Nat := 65535

def isToken (s : String) : Bool :=
  !s.isEmpty && s.utf8ByteSize ≤ maxNameSize && s.toList.all isTokenChar

/-- A character that may stand in a value: anything but controls, of which only a tab is allowed. -/
def isValueChar (c : Char) : Bool := (32 ≤ c.toNat && c.toNat ≠ 127) || c.toNat = 9

def isValue (s : String) : Bool := s.toList.all isValueChar

def isPadding (c : Char) : Bool := c = ' ' || c = '\t'

/-- The value as the other side reads it. -/
def trim (s : String) : String :=
  String.ofList ((s.toList.dropWhile isPadding).reverse.dropWhile isPadding).reverse

end Courier.Header
