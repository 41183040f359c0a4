import Evidence.Text.FormEncoded

/-!
# Requests

What is asked of an API server, and the address that a question is sent to.

Main definitions:

- `Request`: a question to a server, its path, its query and its text.
- `Address.path` and `Address.query`: the parts of an address.
- `isAddress` and `addressLimit`: which addresses can be sent.
-/

namespace Evidence.Kubernetes

/-! ## Parts of an address -/

namespace Address

/-- What of an address is sent: what stands in front of its first number sign. -/
def sent (t : Text) : Text :=
  t.takeWhile (· != '#')

/-- The path of an address ends at its first question mark, wherever that comes from. -/
def path (t : Text) : Text :=
  (sent t).takeWhile (· != '?')

/-- The query of an address stands behind its first question mark. -/
def query (t : Text) : Text :=
  ((sent t).dropWhile (· != '?')).drop 1

end Address

/-! ## Requests -/

/-- A question to a server. -/
inductive Request where
  /-- The pods of a namespace. -/
  | pods (ns : Text)
  /-- The log of a container. -/
  | log (ns pod container : Text)
deriving DecidableEq, Repr

/-- The path to the namespaces, up to their names. -/
def namespacesPath : Text :=
  "/api/v1/namespaces/".toList

/-- The path to the pods of a namespace. -/
def podsPath (ns : Text) : Text :=
  namespacesPath ++ ns ++ "/pods".toList

/-- The path of a question. -/
def Request.path : Request → Text
  | pods ns => podsPath ns
  | log ns pod _ => podsPath ns ++ '/' :: pod ++ "/log".toList

/-- The query of a question. -/
def Request.query : Request → Text
  | pods _ => []
  | log _ _ container => "&container=".toList ++ FormEncoded.write container

/-- The address of a question: its path, and its query behind a question mark. -/
def Request.address (r : Request) : Text :=
  r.path ++ '?' :: r.query

/-- A question as it is sent: its method and what is sent of its address. -/
def Request.text (r : Request) : Text :=
  "GET ".toList ++ Address.sent r.address

/-! ## Addresses that can be sent -/

/-- Whether a character may stand in the path of an address: neither a control character of ASCII
nor a space, an angle bracket or a grave accent. -/
def isPathChar (c : Char) : Bool :=
  0x21 ≤ c.toNat && c != '<' && c != '>' && c != '\x60' && c != '\x7f'

/-- Whether a character may stand in the query of an address: neither a control character of ASCII
nor a space, an angle bracket or a double quote. -/
def isQueryChar (c : Char) : Bool :=
  0x21 ≤ c.toNat && c != '<' && c != '>' && c != '"' && c != '\x7f'

/-- Whether the characters of an address may stand where they do. -/
def isAddress (t : Text) : Bool :=
  (Address.path t).all isPathChar && (Address.query t).all isQueryChar

/-- The most bytes that an address may take. -/
def addressLimit : Nat := 65534

end Evidence.Kubernetes
